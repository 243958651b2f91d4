import PagePress.Proofs.Json.Record
import PagePress.View.Codec

/-!
# View trees as JSON — a tree is read back from what is written for it

A text is a string and an element an object, so the two are told apart when they are read.  An
object without attributes or without children stands for an element that has none.

* `Node.written` is the object of an element, looked up one name at a time;
* `Node.ofJson?_toJson`: every view tree is read back.
-/

namespace PagePress

namespace View

namespace Node

/-- The object of an element whose children are written already. -/
def written (t : String) (as : Dict String) (js : List Json) : Dict Json :=
  .ofList (elementEntries t as js)

theorem toJson_element (t : String) (as : Dict String) (cs : List Node) :
    (element t as cs).toJson = .ofDict (written t as (listToJson cs)) := by
  rw [toJson]
  rfl

section

variable (t : String) (as : Dict String) (js : List Json)

theorem get?_written_tag : (written t as js).get? "tag" = some (.str t) := by
  rw [written, elementEntries]
  split <;> split <;> simp

theorem get?_written_attrs :
    (written t as js).get? "attrs" = if as.isEmpty then none else some (.ofTexts as) := by
  rw [written, elementEntries]
  split <;> split <;> simp

theorem get?_written_children :
    (written t as js).get? "children" = if js = [] then none else some (.arr js) := by
  rw [written, elementEntries]
  cases js <;> split <;> simp

end

theorem attrs?_written (as : Dict String) :
    attrs? (if as.isEmpty then none else some (.ofTexts as)) = some as := by
  split
  · rename_i hempty
    have has : as = .empty := Dict.ext (List.isEmpty_iff.1 hempty)
    rw [has]
    rfl
  · exact (Json.readsBack_texts as).read_write

theorem childrenOf?_eq (es : List (String × Json)) :
    childrenOf? es = match Entries.get? "children" es with
      | none => some []
      | some (.arr xs) => listOfJson? xs
      | some _ => none := by
  refine Json.children_eq_get? ?_ (fun k v rest => ?_) es
  · rw [childrenOf?]
  · exact childrenOf?.eq_def ((k, v) :: rest)

mutual

/-- Every view tree is read back. -/
theorem ofJson?_toJson : ∀ n : Node, ofJson? n.toJson = some n
  | text s => by rw [toJson, ofJson?]
  | element t as cs => by
    have htag : Entries.get? "tag" (written t as (listToJson cs)).entries = some (.str t) :=
      get?_written_tag ..
    have hattrs : Entries.get? "attrs" (written t as (listToJson cs)).entries =
        if as.isEmpty then none else some (.ofTexts as) := get?_written_attrs ..
    have hread : childrenOf? (written t as (listToJson cs)).entries = some cs := by
      rw [childrenOf?_eq]
      exact Json.children_of_get? (by rw [listOfJson?]) (get?_written_children ..)
        (listOfJson?_listToJson cs)
    rw [toJson_element, Json.ofDict, ofJson?, htag, hattrs, attrs?_written, hread]
    rfl

/-- Every list of view trees is read back. -/
theorem listOfJson?_listToJson : ∀ ns : List Node, listOfJson? (listToJson ns) = some ns
  | [] => by rw [listToJson, listOfJson?]
  | n :: ns => by rw [listToJson, listOfJson?, ofJson?_toJson n, listOfJson?_listToJson ns]

end

theorem readsBack (n : Node) : Json.ReadsBack toJson ofJson? n := by
  refine ⟨?_, ofJson?_toJson n⟩
  cases n with
  | text s =>
      rw [toJson]
      exact nofun
  | element t as cs =>
      rw [toJson_element]
      exact nofun

end Node

end View

end PagePress

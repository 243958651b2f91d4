import PagePress.Proofs.Markup.Acceptance
import PagePress.Proofs.Markup.RoundTrip
import PagePress.Proofs.View.Elements

/-!
# Complete markup — text behind which reading starts afresh

Markup text may end inside a tag, a declaration or a raw text element, and then takes what follows
for a part of it.  Complete markup does not; it may well leave elements open.

* `Complete` is closed under concatenation (`Complete.append`) and holds of tags, texts and
  elements as they are written (`complete_htmlAll`, `complete_startTagHtml`,
  `complete_endTagHtml`);
* `readFrom?_append`: what is read by itself is read in front of markup;
* `Forest.Holds` is kept by every step: an element that was built stays;
* `exists_element_of_parseChars?`: an element that is written behind complete markup is read back.
-/

namespace PagePress

namespace Markup

open View (Node isElementName isAttributeName rawPrefix startTagHtml endTagHtml)

/-! ## Reading on -/

/-- Markup lies in the text that it is read from. -/
theorem markupAt?_le {cs : List Char} {token? : Option Token} {n : Nat}
    (h : markupAt? cs = some (token?, n)) : n ≤ cs.length := by
  have horiginal := h
  unfold markupAt? at h
  split at h
  · cases h
  · split at h
    · obtain ⟨m, hm, h⟩ := Option.bind_eq_some_iff.1 h
      have hle := Text.find?_le hm
      cases h
      simpa using hle
    · cases h
  · obtain ⟨m, hm, h⟩ := Option.bind_eq_some_iff.1 h
    obtain ⟨body, -, h⟩ := Option.bind_eq_some_iff.1 h
    have hle := Text.find?_le hm
    cases h
    simpa using hle
  · rename_i c rest hcomment hcdata
    have hdash : c ≠ '-' := fun e => hcomment (by rw [e])
    have hbracket : c ≠ '[' := fun e => hcdata (by rw [e])
    rw [markupAt?_declaration hdash hbracket] at horiginal
    split at horiginal
    · obtain ⟨m, hm, horiginal⟩ := Option.bind_eq_some_iff.1 horiginal
      have hlt := (doctypeLength?_more [] le_rfl hm).1
      split at horiginal
      · cases horiginal
        simp only [List.length_cons]
        omega
      · cases horiginal
    · cases horiginal
  · cases h
  · obtain ⟨m, hm, h⟩ := Option.bind_eq_some_iff.1 h
    have hle := Text.find?_le hm
    split at h
    · cases h
    · cases h
      exact hle
  · obtain ⟨m, hm, h⟩ := Option.bind_eq_some_iff.1 h
    have hlt := (tagContentLength?_more [] hm).1
    cases h
    simp only [List.length_cons]
    omega
  · obtain ⟨m, hm, h⟩ := Option.bind_eq_some_iff.1 h
    have hlt := (tagContentLength?_more [] hm).1
    cases h
    omega

/-- A reference ends in front of markup as it ends with the text. -/
theorem referenceAt_append (xs : List Char) {ys : List Char} (hys : ys.head? = some '<') :
    referenceAt (xs ++ ys) = referenceAt xs ∧ (referenceAt xs).2 ≤ xs.length := by
  obtain ⟨zs, rfl⟩ : ∃ zs, ys = '<' :: zs := List.head?_eq_some_iff.1 hys
  let inBody : Char → Bool := fun c => c != ';' && c != '&' && c != '<'
  have htake : (xs ++ '<' :: zs).takeWhile inBody = xs.takeWhile inBody := by
    rw [List.takeWhile_append]
    split
    · next hall => simp [(List.takeWhile_prefix inBody).eq_of_length hall, inBody]
    · rfl
  have hle : (xs.takeWhile inBody).length ≤ xs.length := (List.takeWhile_prefix inBody).length_le
  have hdrop : (xs ++ '<' :: zs).drop (xs.takeWhile inBody).length =
      xs.drop (xs.takeWhile inBody).length ++ '<' :: zs := List.drop_append_of_le_length hle
  unfold referenceAt
  simp only [inBody] at htake hle hdrop
  simp only [htake, hdrop]
  cases hrest : xs.drop (xs.takeWhile fun c => c != ';' && c != '&' && c != '<').length with
  | nil => exact ⟨rfl, Nat.zero_le _⟩
  | cons d ds =>
      have hlength := congrArg List.length hrest
      rw [List.length_drop, List.length_cons] at hlength
      by_cases hd : d = ';'
      · subst hd
        exact ⟨rfl, by show _ + 1 ≤ _; omega⟩
      · simp [hd]

/-- What is read by itself is read in front of markup, and the markup is read behind it. -/
theorem readFrom?_append {ys : List Char} (hys : ys.head? = some '<') :
    ∀ {xs : List Char} {k : Nat} {ts : List Token}, k ≤ xs.length →
      Token.readFrom? k xs = some ts →
        Token.readFrom? k (xs ++ ys) = (Token.readFrom? 0 ys).map (ts ++ ·) := by
  intro xs
  induction xs with
  | nil =>
      intro k ts hk h
      obtain rfl : k = 0 := Nat.le_zero.1 hk
      cases h
      simp
  | cons c xs ih =>
      intro k ts hk h
      cases k with
      | succ k => exact ih (Nat.le_of_succ_le_succ hk) h
      | zero =>
          rw [Token.readFrom?] at h
          rw [List.cons_append, Token.readFrom?]
          split at h
          · rename_i hlt
            split at h
            · rename_i token? n hmarkup
              obtain ⟨us, hus, rfl⟩ := Option.map_eq_some_iff.1 h
              rw [if_pos hlt, markupAt?_more hmarkup ys]
              simp only [ih (markupAt?_le hmarkup) hus, Option.map_map, Function.comp_def,
                List.append_assoc]
            · cases h
          · rename_i hlt
            rw [if_neg hlt]
            split at h
            · rename_i hamp
              obtain ⟨hsame, hle⟩ := referenceAt_append xs hys
              rw [if_pos hamp, hsame]
              rcases hreference : referenceAt xs with ⟨s, n⟩
              rw [hreference] at h hle
              obtain ⟨us, hus, rfl⟩ := Option.map_eq_some_iff.1 h
              simp only [ih hle hus, Option.map_map, Function.comp_def, List.cons_append]
            · rename_i hamp
              obtain ⟨us, hus, rfl⟩ := Option.map_eq_some_iff.1 h
              rw [if_neg hamp, ih (Nat.zero_le _) hus]
              simp only [Option.map_map, Function.comp_def, List.cons_append]

theorem ofChars?_append {xs ys : List Char} (hys : ys.head? = some '<') {ts : List Token}
    (h : Token.ofChars? xs = some ts) :
    Token.ofChars? (xs ++ ys) = (Token.readFrom? 0 ys).map (ts ++ ·) := by
  cases xs with
  | nil =>
      cases h
      obtain ⟨zs, rfl⟩ : ∃ zs, ys = '<' :: zs := List.head?_eq_some_iff.1 hys
      rw [List.nil_append, Token.ofChars?, if_neg (by decide)]
      simp
  | cons c xs =>
      rw [Token.ofChars?] at h
      rw [List.cons_append, Token.ofChars?]
      split at h
      · rename_i hmark
        rw [if_pos hmark]
        exact readFrom?_append hys (Nat.zero_le _) h
      · rename_i hmark
        rw [if_neg hmark]
        exact readFrom?_append hys (Nat.zero_le _) h

/-- Two texts that are read are read one behind the other. -/
theorem isSome_readFrom?_append_of {ys : List Char} (hys : (Token.readFrom? 0 ys).isSome = true) :
    ∀ {xs : List Char} {k : Nat}, k ≤ xs.length → (Token.readFrom? k xs).isSome = true →
      (Token.readFrom? k (xs ++ ys)).isSome = true := by
  intro xs
  induction xs with
  | nil =>
      intro k hk _
      obtain rfl : k = 0 := Nat.le_zero.1 hk
      exact hys
  | cons c xs ih =>
      intro k hk h
      cases k with
      | succ k => exact ih (Nat.le_of_succ_le_succ hk) h
      | zero =>
          by_cases hlt : c = '<'
          · rw [Token.readFrom?, if_pos hlt] at h
            rw [List.cons_append, Token.readFrom?, if_pos hlt]
            cases hmarkup : markupAt? xs with
            | none =>
                rw [hmarkup] at h
                cases h
            | some found =>
                obtain ⟨token?, n⟩ := found
                rw [hmarkup, Option.isSome_map] at h
                rw [markupAt?_more hmarkup ys, Option.isSome_map]
                exact ih (markupAt?_le hmarkup) h
          · -- A reference may reach into the second text, but not over markup.
            rw [isSome_readFrom?_cons hlt] at h
            rw [List.cons_append, isSome_readFrom?_cons hlt]
            exact ih (Nat.zero_le _) h

/-! ## Complete markup -/

/-- Markup text that can be read and behind which escaping starts afresh. -/
structure Complete (s : List Char) : Prop where
  reads : (parseChars? s).isSome = true
  escapes : ∀ rest, escapeStray (s ++ rest) = escapeStray s ++ escapeStray rest

theorem isSome_parseChars? (s : List Char) :
    (parseChars? s).isSome = (Token.readFrom? 0 (escapeStray s)).isSome := by
  rw [parseChars?, Option.isSome_map, isSome_ofChars?]

theorem Complete.nil : Complete [] := ⟨rfl, fun _ => rfl⟩

theorem Complete.append {s t : List Char} (hs : Complete s) (ht : Complete t) :
    Complete (s ++ t) := by
  constructor
  · have hreads := hs.reads
    have hreads' := ht.reads
    rw [isSome_parseChars?] at hreads hreads' ⊢
    rw [hs.escapes]
    exact isSome_readFrom?_append_of hreads' (Nat.zero_le _) hreads
  · intro rest
    rw [List.append_assoc, hs.escapes, ht.escapes, hs.escapes, List.append_assoc]

/-- What is rewritten wherever it stands in text and then read is complete. -/
theorem complete_of_reads {s s' : List Char} {ts : List Token} (hreads : Reads s' ts)
    (h : ∀ rest, escapeFrom .text (s ++ rest) = s' ++ escapeFrom .text rest) : Complete s := by
  have hself : escapeStray s = s' := by simpa [escapeStray, escapeFrom] using h []
  constructor
  · have hread := hreads []
    rw [List.append_nil] at hread
    rw [isSome_parseChars?, hself, hread]
    rfl
  · intro rest
    rw [hself]
    exact h rest

/-- The HTML of a legible node is complete. -/
theorem complete_html {n : Node} (h : n.Legible) : Complete n.html :=
  complete_of_reads (reads_rewritten h) (escapeFrom_html h)

/-- So is that of legible nodes one behind the other. -/
theorem complete_htmlAll {ns : List Node} (h : ∀ n ∈ ns, n.Legible) :
    Complete (Node.htmlAll ns) := by
  induction ns with
  | nil => exact Complete.nil
  | cons n ns ih =>
      rw [List.forall_mem_cons] at h
      exact (complete_html h.1).append (ih h.2)

/-- So is a start tag, unless raw text follows it. -/
theorem complete_startTagHtml {t : String} {as : Dict String} (ht : isElementName t = true)
    (has : ∀ e ∈ as.entries, isAttributeName e.1 = true) (hraw : rawPrefix t ∉ rawTextNames) :
    Complete (startTagHtml t as) :=
  complete_of_reads (reads_startTagHtml ht has) fun _ => escapeFrom_startTagHtml_text ht has hraw

theorem complete_endTagHtml {t : String} (ht : isElementName t = true) : Complete (endTagHtml t) :=
  complete_of_reads (reads_endTagHtml ht) fun _ => escapeFrom_endTagHtml ht

/-! ## Elements that stay -/

namespace Forest

/-- An element is built, in an element that is still open or behind all of them. -/
def Holds (f : Forest) (x : Node) : Prop :=
  x ∈ Node.elementsAll f.nodes ∨ ∃ o ∈ f.opened, x ∈ Node.elementsAll o.earlier

variable {f : Forest} {x : Node}

theorem Holds.pushText (h : f.Holds x) (s : String) : (f.pushText s).Holds x := by
  unfold Forest.pushText
  split
  · exact h
  · split
    · rename_i t earlier hnodes
      rw [Holds, hnodes] at h
      exact h
    · exact h

theorem Holds.push (h : f.Holds x) (n : Node) : (f.push n).Holds x :=
  h.imp_left fun hx => List.mem_append_right _ hx

theorem holds_push {n : Node} (h : n.isElement = true) : (f.push n).Holds n :=
  .inl (List.mem_append_left _ (Node.mem_elements_self h))

/-- Closing elements puts their children into them. -/
theorem holds_closeThrough (p : String → Bool) :
    ∀ {opened : List OpenElement} {nodes : List Node}, Holds ⟨opened, nodes⟩ x →
      (closeThrough p opened nodes).Holds x := by
  intro opened
  induction opened with
  | nil => exact fun h => h
  | cons o opened ih =>
      intro nodes h
      have hclosed : x ∈ Node.elementsAll (.element o.tag o.attrs nodes.reverse :: o.earlier) ∨
          ∃ o' ∈ opened, x ∈ Node.elementsAll o'.earlier := by
        rcases h with hx | ⟨o', ho', hx⟩
        · have hreverse : x ∈ Node.elementsAll nodes.reverse := by
            simpa [Node.mem_elementsAll] using hx
          exact .inl (List.mem_append_left _ (List.mem_cons_of_mem _ hreverse))
        · rcases List.mem_cons.1 ho' with rfl | ho'
          · exact .inl (List.mem_append_right _ hx)
          · exact .inr ⟨o', ho', hx⟩
      rw [closeThrough]
      split
      · exact hclosed
      · exact ih hclosed

theorem Holds.step (h : f.Holds x) (t : Token) : (f.step t).Holds x := by
  cases t with
  | text s => exact h.pushText s
  | empty t as => exact h.push _
  | close t =>
      rw [Forest.step]
      split
      · exact holds_closeThrough _ h
      · exact h
  | «open» t as =>
      rw [Forest.step]
      split
      · exact h.push _
      · rcases h with hx | ⟨o, ho, hx⟩
        · exact .inr ⟨_, List.mem_cons_self .., hx⟩
        · exact .inr ⟨o, List.mem_cons_of_mem _ ho, hx⟩

theorem Holds.foldl_step (h : f.Holds x) (ts : List Token) : (ts.foldl Forest.step f).Holds x := by
  induction ts generalizing f with
  | nil => exact h
  | cons t ts ih => exact ih (h.step t)

/-- In the end everything that was built is there. -/
theorem Holds.finish (h : f.Holds x) : x ∈ Node.elementsAll f.finish := by
  have hclosed := holds_closeThrough (fun _ => false) h
  rw [Holds, opened_closeThrough_false] at hclosed
  rw [Forest.finish]
  simpa [Node.mem_elementsAll] using hclosed

end Forest

/-! ## Reading an element back -/

theorem head?_html {e : Node} (h : e.isElement = true) : e.html.head? = some '<' := by
  cases e with
  | text s => cases h
  | element t as cs =>
      rw [Node.html]
      split
      · rfl
      · split <;> rfl

theorem head?_rewritten {e : Node} (h : e.isElement = true) : (rewritten e).head? = some '<' := by
  cases e with
  | text s => cases h
  | element t as cs =>
      rw [rewritten]
      split
      · rfl
      · split <;> rfl

/-- A legible element that is written behind complete markup is read back, whatever follows. -/
theorem exists_element_of_parseChars? {s rest : List Char} {e : Node} {ns : List Node}
    (hs : Complete s) (he : e.Legible) (helement : e.isElement = true)
    (h : parseChars? (s ++ (e.html ++ rest)) = some ns) :
    ∃ y ∈ Node.elementsAll ns, y.html = e.html := by
  obtain ⟨tokens?, hread, rfl⟩ := Option.map_eq_some_iff.1 h
  -- The tokens are those of the text in front, of the element and of what follows.
  have hfront : (Token.ofChars? (escapeStray s)).isSome = true := by
    have hreads := hs.reads
    rwa [parseChars?, Option.isSome_map] at hreads
  obtain ⟨ts, hts⟩ := Option.isSome_iff_exists.1 hfront
  have hescape : escapeStray (e.html ++ rest) = rewritten e ++ escapeStray rest :=
    escapeFrom_html he rest
  have hhead : (rewritten e ++ escapeStray rest).head? = some '<' := by
    rw [List.head?_append, head?_rewritten helement]
    rfl
  rw [hs.escapes, hescape, ofChars?_append hhead hts, reads_rewritten he, Option.map_map,
    Option.map_eq_some_iff] at hread
  obtain ⟨us, -, rfl⟩ := hread
  -- What is built is the tidied element, which is written in the same way.
  refine ⟨e.tidy, ?_, Node.html_tidy e⟩
  have helement' : e.tidy.isElement = true := by
    cases e with
    | text t => cases helement
    | element t as cs => rfl
  have hadd : ∀ f : Forest, f.add e.tidy = f.push e.tidy := by
    cases e with
    | text t => cases helement
    | element t as cs => exact fun _ => rfl
  have hbuilt : ((ts ++ (tokens e ++ us)).foldl Forest.step .start).Holds e.tidy := by
    rw [List.foldl_append, List.foldl_append, foldl_step_tokens he, hadd]
    exact (Forest.holds_push helement').foldl_step us
  exact hbuilt.finish

end Markup

end PagePress

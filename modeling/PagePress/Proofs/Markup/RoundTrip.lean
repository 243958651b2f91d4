import PagePress.Markup.Forest
import PagePress.Proofs.Markup.Escape

/-!
# Round trip — reading the HTML of a view tree

Escaping, tokens and tree building are followed one after the other: escaping rewrites the HTML
of a legible node, what it is rewritten to is read as the tokens of the node, and these tokens
build the node.

* `parseChars?_htmlAll`: the HTML of writable or legible nodes is read as the tidied nodes;
* `parse?_join_outerHtml`: the HTML of tidy writable nodes is read as these nodes.
-/

namespace PagePress

namespace Markup

open View (Node Tidy isElementName isAttributeName isElementName_chars tagBody startTagHtml
  startTagHtml_eq endTagHtml escapeTextChar isVoid rawTextTags)

/-! ## Tokens of a node -/

/-- The tokens of characters that stand for themselves. -/
def textTokens (cs : List Char) : List Token := cs.map fun c => .text (String.ofList [c])

mutual

/-- The tokens of a node. -/
def tokens : Node → List Token
  | .element t as cs => if isVoid t then [.open t as] else .open t as :: tokensAll cs ++ [.close t]
  | .text s => textTokens s.toList

/-- The tokens of a list of nodes. -/
def tokensAll : List Node → List Token
  | [] => []
  | n :: ns => tokens n ++ tokensAll ns

end

/-- Characters that are read as tokens, whatever follows them. -/
def Reads (xs : List Char) (ts : List Token) : Prop :=
  ∀ rest, Token.readFrom? 0 (xs ++ rest) = (Token.readFrom? 0 rest).map (ts ++ ·)

namespace Reads

theorem nil : Reads [] [] := by
  intro rest
  simp

theorem append {xs ys : List Char} {ts us : List Token} (hx : Reads xs ts) (hy : Reads ys us) :
    Reads (xs ++ ys) (ts ++ us) := by
  intro rest
  rw [List.append_assoc, hx, hy, Option.map_map]
  simp [Function.comp_def]

end Reads

theorem readFrom?_length (xs rest : List Char) :
    Token.readFrom? xs.length (xs ++ rest) = Token.readFrom? 0 rest := by
  induction xs with
  | nil => rfl
  | cons c xs ih => exact ih

/-! ## Characters -/

/-- A character that starts neither markup nor a reference is read as it is. -/
theorem reads_char {c : Char} (hlt : c ≠ '<') (hamp : c ≠ '&') : Reads [c] (textTokens [c]) := by
  intro rest
  simp [Token.readFrom?, hlt, hamp, textTokens]

/-- A reference is read as what it stands for. -/
theorem reads_referenceText (name : List Char)
    (hname : name.all (fun c => c != ';' && c != '&' && c != '<') = true) :
    Reads ('&' :: (name ++ [';'])) [.text (Reference.text name)] := by
  intro rest
  have hat : referenceAt (name ++ ';' :: rest) = (Reference.text name, name.length + 1) := by
    have htake : (name ++ ';' :: rest).takeWhile (fun c => c != ';' && c != '&' && c != '<') =
        name := by
      rw [List.takeWhile_append_of_pos (List.all_eq_true.1 hname)]
      simp
    simp [referenceAt, htake]
  have hrest := readFrom?_length (name ++ [';']) rest
  rw [List.append_assoc, List.singleton_append, List.length_append, List.length_singleton] at hrest
  rw [List.cons_append, List.append_assoc, List.singleton_append, Token.readFrom?]
  simp [hat, hrest]

/-- A reference to a character is read as the character. -/
theorem reads_reference (name : List Char) {d : Char}
    (hname : name.all (fun c => c != ';' && c != '&' && c != '<') = true)
    (hd : Reference.text name = String.ofList [d]) :
    Reads ('&' :: (name ++ [';'])) (textTokens [d]) := by
  have hread := reads_referenceText name hname
  rwa [hd] at hread

theorem reads_escapeTextChar (c : Char) : Reads (escapeTextChar c) (textTokens [c]) := by
  unfold escapeTextChar
  split
  · exact reads_reference "amp".toList (by decide) (by decide)
  · exact reads_reference "lt".toList (by decide) (by decide)
  · exact reads_reference "gt".toList (by decide) (by decide)
  · rename_i hamp hlt _
    exact reads_char hlt hamp

theorem reads_escapeRawChar {t : String} (ht : t ≠ "textarea") (c : Char) :
    Reads (escapeRawChar t c) (textTokens [c]) := by
  unfold escapeRawChar
  split
  · rename_i hlt
    subst hlt
    exact reads_reference "lt".toList (by decide) (by decide)
  · split
    · rename_i hamp
      obtain rfl : c = '&' := by simp at hamp; exact hamp.1
      exact reads_reference "amp".toList (by decide) (by decide)
    · rename_i hlt hamp
      exact reads_char hlt (by simpa [ht] using hamp)

theorem reads_flatMap {f : Char → List Char} (h : ∀ c, Reads (f c) (textTokens [c]))
    (cs : List Char) : Reads (cs.flatMap f) (textTokens cs) := by
  induction cs with
  | nil => exact Reads.nil
  | cons c cs ih => exact (h c).append ih

/-! ## Tags -/

/-- Markup that gives one token is read as it. -/
theorem reads_markup {xs : List Char} {token : Token}
    (h : ∀ rest, markupAt? (xs ++ rest) = some (some token, xs.length)) :
    Reads ('<' :: xs) [token] := by
  intro rest
  rw [List.cons_append, Token.readFrom?]
  simp [h, readFrom?_length]

theorem reads_startTag {t : String} {cs : List Char} (ht : isElementName t = true)
    (hcs : AttrText cs) :
    Reads ('<' :: (t.toList ++ cs ++ ['>'])) [.open t (attributes cs)] := by
  refine reads_markup fun rest => ?_
  obtain ⟨c, ds, hname, hc, -⟩ := View.isName_iff.1 ht
  have hscan := scan_tag ht hcs
  have htoken := ofTag_tag ht hcs
  rw [hname, List.cons_append] at hscan htoken ⊢
  rw [List.append_assoc, List.singleton_append,
    markupAt?_startTag (Text.isAlpha_iff.2 (.inr hc)) hscan, htoken]
  simp [Nat.add_assoc]

theorem reads_startTagHtml {t : String} {as : Dict String} (ht : isElementName t = true)
    (has : ∀ e ∈ as.entries, isAttributeName e.1 = true) :
    Reads (startTagHtml t as) [.open t as] := by
  have hread := reads_startTag ht (attrText_attrsHtml has)
  rw [attributes_attrsHtml has] at hread
  rw [startTagHtml_eq]
  exact hread

theorem reads_endTagHtml {t : String} (ht : isElementName t = true) :
    Reads (endTagHtml t) [.close t] := by
  rw [endTagHtml_eq]
  refine reads_markup fun rest => ?_
  rw [List.append_assoc, List.singleton_append, endBody, List.cons_append,
    markupAt?_endTag (scan_name (isElementName_chars ht)), ofEndTag_name ht]
  simp

/-! ## Nodes -/

theorem reads_rewrittenAll {ns : List Node} (h : ∀ n ∈ ns, Reads (rewritten n) (tokens n)) :
    Reads (rewrittenAll ns) (tokensAll ns) := by
  induction ns with
  | nil => exact Reads.nil
  | cons n ns ih =>
      exact (h n (List.mem_cons_self ..)).append (ih fun m hm => h m (List.mem_cons_of_mem _ hm))

/-- What a node is rewritten to is read as its tokens. -/
theorem reads_rewritten {n : Node} (h : n.Legible) : Reads (rewritten n) (tokens n) := by
  induction h with
  | text s => exact reads_flatMap reads_escapeTextChar s.toList
  | @void t as ht has hvoid =>
      simp only [rewritten, tokens, hvoid, if_true]
      exact reads_startTagHtml ht has
  | @raw t as cs hraw has hcs =>
      obtain ⟨ht, hvoid, -⟩ := isElementName_of_rawTextNames hraw
      have hstart := reads_startTagHtml ht has
      have hend := reads_endTagHtml ht
      by_cases htag : rawTextTags.contains t = true
      · have hcontent : Reads ((Node.htmlRaw cs).flatMap (escapeRawChar t)) (tokensAll cs) := by
          have hne : t ≠ "textarea" := by
            rintro rfl
            revert htag
            decide
          have hread := reads_flatMap (reads_escapeRawChar hne) (Node.htmlRaw cs)
          rcases hcs with rfl | ⟨s, rfl, -⟩
          · exact hread
          · simpa [tokensAll, tokens, Node.htmlRaw] using hread
        simp only [rewritten, tokens, hvoid, htag, if_true, Bool.false_eq_true, if_false]
        exact (hstart.append hcontent).append hend
      · have hcontent : Reads (rewrittenAll cs) (tokensAll cs) := by
          refine reads_rewrittenAll fun n hn => ?_
          rcases hcs with rfl | ⟨s, rfl, -⟩
          · cases hn
          · rw [List.mem_singleton.1 hn]
            exact reads_flatMap reads_escapeTextChar s.toList
        simp only [rewritten, tokens, hvoid, htag, Bool.false_eq_true, if_false]
        exact (hstart.append hcontent).append hend
  | @element t as cs ht has hvoid hraw _ ih =>
      have htag := contains_rawTextTags_eq_false (not_mem_rawTextNames hraw)
      simp only [rewritten, tokens, hvoid, htag, Bool.false_eq_true, if_false]
      exact ((reads_startTagHtml ht has).append (reads_rewrittenAll ih)).append
        (reads_endTagHtml ht)

/-! ## Building -/

namespace Forest

/-- Adds a node, a text joined to a text before it. -/
def add (f : Forest) : Node → Forest
  | .text s => f.pushText s
  | n => f.push n

theorem pushText_pushText (f : Forest) (a b : String) :
    (f.pushText a).pushText b = f.pushText (a ++ b) := by
  by_cases ha : a = ""
  · simp [pushText, ha]
  by_cases hb : b = ""
  · simp [pushText, hb]
  -- Both texts go to the same place: to the text read last, or behind what was read.
  obtain ⟨opened, nodes⟩ := f
  rcases nodes with _ | ⟨_ | t, nodes⟩ <;> simp [pushText, ha, hb, String.append_assoc]

/-- Texts are joined as they are read. -/
theorem foldl_step_texts (ss : List String) :
    ∀ f : Forest, (ss.map Token.text).foldl step f = f.pushText (String.join ss) := by
  induction ss with
  | nil =>
      intro f
      simp [pushText]
  | cons s ss ih =>
      intro f
      rw [List.map_cons, List.foldl_cons, step, ih, pushText_pushText, String.join_cons]

theorem foldl_step_textTokens (cs : List Char) (f : Forest) :
    (textTokens cs).foldl step f = f.pushText (String.ofList cs) := by
  have hjoin : String.join (cs.map fun c => String.ofList [c]) = String.ofList cs := by
    rw [← String.toList_inj, String.toList_join, List.flatMap_map]
    simp
  have htokens : textTokens cs = (cs.map fun c => String.ofList [c]).map Token.text := by
    rw [textTokens, List.map_map]
    rfl
  rw [htokens, foldl_step_texts, hjoin]

/-- An end tag closes the element that was opened last. -/
theorem step_close (t : String) (as : Dict String) (opened : List OpenElement)
    (earlier nodes : List Node) :
    step ⟨⟨t, as, earlier⟩ :: opened, nodes⟩ (.close t) =
      ⟨opened, .element t as nodes.reverse :: earlier⟩ := by
  simp [step, closeThrough]

theorem opened_closeThrough_false (opened : List OpenElement) (nodes : List Node) :
    (closeThrough (fun _ => false) opened nodes).opened = [] := by
  induction opened generalizing nodes with
  | nil => rfl
  | cons o opened ih => exact ih _

end Forest

/-! ## Joining texts -/

/-- An empty text leaves nothing. -/
theorem prepend_empty (ns : List Node) : Node.prepend (.text "") ns = ns := by
  rcases ns with _ | ⟨_ | t, ns⟩ <;> simp [Node.prepend]

/-- Texts may be joined in any order. -/
theorem prepend_prepend (a b : String) (ns : List Node) :
    Node.prepend (.text a) (Node.prepend (.text b) ns) = Node.prepend (.text (a ++ b)) ns := by
  by_cases hb : b = ""
  · rw [hb, prepend_empty, String.append_empty]
  · rcases ns with _ | ⟨_ | t, ns⟩ <;> simp [Node.prepend, hb, String.append_assoc]

/-- What stands before tidy nodes, in reverse, after they are read: a text in front becomes a
part of the first one. -/
def follow : List Node → List Node → List Node
  | .text t :: earlier, ns => (Node.prepend (.text t) ns).reverse ++ earlier
  | earlier, ns => ns.reverse ++ earlier

/-- The last node read is no empty text. -/
def Settled (nodes : List Node) : Prop := nodes.head? ≠ some (.text "")

theorem follow_nil {nodes : List Node} (h : Settled nodes) : follow nodes [] = nodes := by
  rcases nodes with _ | ⟨_ | t, nodes⟩
  · rfl
  · rfl
  · have ht : t ≠ "" := fun e => h (by simp [e])
    simp [follow, Node.prepend, ht]

/-- Adding a node is adding it to the nodes that follow. -/
theorem add_settled (opened : List OpenElement) {nodes : List Node} (h : Settled nodes) (n : Node) :
    ∃ nodes', Forest.add ⟨opened, nodes⟩ n = ⟨opened, nodes'⟩ ∧ Settled nodes' ∧
      ∀ ns, follow nodes' ns = follow nodes (Node.prepend n ns) := by
  cases n with
  | element t as cs =>
      -- An element ends the text before it.
      refine ⟨.element t as cs :: nodes, rfl, by simp [Settled], fun ns => ?_⟩
      rcases nodes with _ | ⟨_ | u, nodes⟩
      · simp [follow, Node.prepend]
      · simp [follow, Node.prepend]
      · have hu : u ≠ "" := fun e => h (by simp [e])
        simp [follow, Node.prepend, hu]
  | text s =>
      -- An empty text changes nothing; any other joins a text before it.
      by_cases hs : s = ""
      · refine ⟨nodes, by simp [Forest.add, Forest.pushText, hs], h, fun ns => ?_⟩
        rw [hs, prepend_empty]
      · rcases nodes with _ | ⟨⟨u, as, cs⟩ | u, nodes⟩
        · exact ⟨[.text s], by simp [Forest.add, Forest.pushText, hs], by simp [Settled, hs],
            fun ns => by simp [follow]⟩
        · exact ⟨.text s :: .element u as cs :: nodes, by simp [Forest.add, Forest.pushText, hs],
            by simp [Settled, hs], fun ns => by simp [follow]⟩
        · exact ⟨.text (u ++ s) :: nodes, by simp [Forest.add, Forest.pushText, hs],
            by simp [Settled, hs], fun ns => by simp [follow, prepend_prepend]⟩

/-- Nodes that are added one by one are tidied. -/
theorem foldl_add {opened : List OpenElement} {ns : List Node} :
    ∀ {nodes : List Node}, Settled nodes →
      (ns.map Node.tidy).foldl Forest.add ⟨opened, nodes⟩ =
        ⟨opened, follow nodes (Node.tidyAll ns)⟩ := by
  induction ns with
  | nil =>
      intro nodes h
      simp [Node.tidyAll, follow_nil h]
  | cons n ns ih =>
      intro nodes h
      obtain ⟨nodes', hadd, hsettled, hfollow⟩ := add_settled opened h n.tidy
      rw [List.map_cons, List.foldl_cons, hadd, ih hsettled, Node.tidyAll, hfollow]

theorem foldl_add_nil (opened : List OpenElement) (ns : List Node) :
    (ns.map Node.tidy).foldl Forest.add ⟨opened, []⟩ = ⟨opened, (Node.tidyAll ns).reverse⟩ := by
  rw [foldl_add (by simp [Settled])]
  simp [follow]

/-! ## Building nodes -/

theorem foldl_step_tokensAll {ns : List Node}
    (h : ∀ n ∈ ns, ∀ f : Forest, (tokens n).foldl Forest.step f = f.add n.tidy) :
    ∀ f : Forest,
      (tokensAll ns).foldl Forest.step f = (ns.map Node.tidy).foldl Forest.add f := by
  induction ns with
  | nil =>
      intro f
      rfl
  | cons n ns ih =>
      intro f
      rw [tokensAll, List.foldl_append, h n (List.mem_cons_self ..),
        ih fun m hm => h m (List.mem_cons_of_mem _ hm), List.map_cons, List.foldl_cons]

/-- The tokens of an element and its children build it. -/
theorem foldl_step_element {t : String} {as : Dict String} {cs : List Node}
    (hvoid : isVoid t = false)
    (h : ∀ c ∈ cs, ∀ f : Forest, (tokens c).foldl Forest.step f = f.add c.tidy) (f : Forest) :
    (tokens (.element t as cs)).foldl Forest.step f = f.add (Node.element t as cs).tidy := by
  have hopen : f.step (.open t as) = ⟨⟨t, as, f.nodes⟩ :: f.opened, []⟩ := by
    simp [Forest.step, hvoid]
  simp only [tokens, hvoid, Bool.false_eq_true, if_false, List.cons_append, List.foldl_cons,
    List.foldl_append, List.foldl_nil]
  rw [hopen, foldl_step_tokensAll h, foldl_add_nil, Forest.step_close, List.reverse_reverse]
  rfl

/-- The tokens of a node build the tidied node. -/
theorem foldl_step_tokens {n : Node} (h : n.Legible) :
    ∀ f : Forest, (tokens n).foldl Forest.step f = f.add n.tidy := by
  induction h with
  | text s =>
      intro f
      rw [tokens, Forest.foldl_step_textTokens, String.ofList_toList]
      rfl
  | @void t as _ _ hvoid =>
      intro f
      simp [tokens, Forest.step, hvoid, Node.tidy, Node.tidyAll, Forest.add]
  | @raw t as cs hraw _ hcs =>
      refine foldl_step_element (isElementName_of_rawTextNames hraw).2.1 fun c hc f => ?_
      rcases hcs with rfl | ⟨s, rfl, -⟩
      · cases hc
      · rw [List.mem_singleton.1 hc, tokens, Forest.foldl_step_textTokens, String.ofList_toList]
        rfl
  | element _ _ hvoid _ _ ih => exact foldl_step_element hvoid ih

/-! ## Whole texts -/

/-- Escaping adds no byte order mark. -/
theorem ofChars?_escapeStray {cs : List Char} (h : cs.head? ≠ some byteOrderMark) :
    Token.ofChars? (escapeStray cs) = Token.readFrom? 0 (escapeStray cs) := by
  cases cs with
  | nil => rfl
  | cons c cs =>
      have hc : c ≠ byteOrderMark := fun e => h (by simp [e])
      have hsettle : Place.text.settle (c :: cs) = .text := rfl
      unfold escapeStray
      rw [escapeFrom, hsettle]
      dsimp only
      split
      · rename_i hlt
        cases markupLength? cs with
        | none => rfl
        | some n => simp [Token.ofChars?, hc]
      · simp [Token.ofChars?, hc]

/-- The HTML of legible nodes is read as the tidied nodes. -/
theorem parseChars?_htmlAll_legible {ns : List Node} (hw : ∀ n ∈ ns, n.Legible)
    (hmark : (Node.htmlAll ns).head? ≠ some byteOrderMark) :
    parseChars? (Node.htmlAll ns) = some (Node.tidyAll ns) := by
  -- Escaping, then reading tokens, then building.
  have hread : Token.readFrom? 0 (rewrittenAll ns) = some (tokensAll ns) := by
    have h := reads_rewrittenAll (fun n hn => reads_rewritten (hw n hn)) []
    simpa [Token.readFrom?] using h
  have hbuild : Forest.ofTokens (tokensAll ns) = Node.tidyAll ns := by
    rw [Forest.ofTokens, foldl_step_tokensAll fun n hn => foldl_step_tokens (hw n hn),
      Forest.start, foldl_add_nil]
    simp [Forest.finish, Forest.closeThrough]
  rw [parseChars?, ofChars?_escapeStray hmark, escapeStray_htmlAll hw, hread, Option.map_some,
    hbuild]

/-- The HTML of writable nodes is read as the tidied nodes. -/
theorem parseChars?_htmlAll {ns : List Node} (hw : ∀ n ∈ ns, n.Writable)
    (hmark : (Node.htmlAll ns).head? ≠ some byteOrderMark) :
    parseChars? (Node.htmlAll ns) = some (Node.tidyAll ns) :=
  parseChars?_htmlAll_legible (fun n hn => (hw n hn).legible) hmark

theorem toList_join_outerHtml (ns : List Node) :
    (String.join (ns.map Node.outerHtml)).toList = Node.htmlAll ns := by
  rw [String.toList_join, List.flatMap_map, Node.htmlAll_eq_flatMap]
  simp [Node.outerHtml]

/-- Reading is the inverse of writing: the HTML of tidy writable nodes is read as these nodes. -/
theorem parse?_join_outerHtml {ns : List Node} (hw : ∀ n ∈ ns, n.Writable) (ht : Tidy ns)
    (hmark : (String.join (ns.map Node.outerHtml)).toList.head? ≠ some byteOrderMark) :
    parse? (String.join (ns.map Node.outerHtml)) = some ns := by
  rw [toList_join_outerHtml] at hmark
  rw [parse?, toList_join_outerHtml, parseChars?_htmlAll hw hmark, ht.tidyAll_eq]

/-- A paragraph with hostile texts and attributes, between a script and a text area. -/
def hostile : List Node :=
  [.element "script" .empty [.text "if (a < b && c) say('</p><SCRIPT>')"],
    .element "p" (.ofList [("title", "\"><b x='&amp;'>"), ("hidden", "")])
      [.text "1 < 2 &lt; <p> ", .element "br" .empty [], .text "&"],
    .text "</p>",
    .element "textarea" .empty [.text "</textarea>&amp;"]]

theorem hostile_writable : ∀ n ∈ hostile, n.Writable := by
  have hp : (Node.element "p" (.ofList [("title", "\"><b x='&amp;'>"), ("hidden", "")])
      [.text "1 < 2 &lt; <p> ", .element "br" .empty [], .text "&"]).Writable := by
    refine .element (by decide) (by decide) (by decide) (by decide) ?_
    simp only [List.forall_mem_cons]
    exact ⟨.text _, .void (by decide) (by decide) (by decide), .text _, by simp⟩
  simp only [hostile, List.forall_mem_cons]
  exact ⟨.raw (by decide) (by decide) (.inr ⟨_, rfl, fun _ => by decide +kernel⟩), hp, .text _,
    .raw (by decide) (by decide) (.inr ⟨_, rfl, fun h => absurd h (by decide)⟩), by simp⟩

theorem parse?_hostile :
    (∀ n ∈ hostile, n.Writable) ∧ Tidy hostile ∧
      parse? (String.join (hostile.map Node.outerHtml)) = some hostile :=
  have ht : Tidy hostile :=
    .element (.text (by decide) (by simp) .nil) <|
      .element (.text (by decide) (by simp) (.element .nil (.text (by decide) (by simp) .nil))) <|
      .text (by decide) (by simp) (.element (.text (by decide) (by simp) .nil) .nil)
  have hmark : (String.join (hostile.map Node.outerHtml)).toList.head? ≠ some byteOrderMark := by
    rw [toList_join_outerHtml]
    decide +kernel
  ⟨hostile_writable, ht, parse?_join_outerHtml hostile_writable ht hmark⟩

end Markup

end PagePress

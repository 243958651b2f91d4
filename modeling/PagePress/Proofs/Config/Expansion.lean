import Mathlib.Data.List.Infix
import PagePress.Config.Settings
import PagePress.Proofs.Fallible
import PagePress.Proofs.Text.Ascii

/-!
# References in values — what is replaced and what is kept

A value is read as characters and references.  The reading does not depend on the environment, and
expanding the value replaces each of its references on its own.

* `Piece` and `Reading`: a value as characters and references, each of the latter in one of the
  forms `${NAME}`, `${NAME:-default}`, `$NAME` and `$$`;
* `expandFrom_written`: one step of the expansion replaces one piece;
* `expand_reading`: a value with `${` in it has the references of all four forms replaced, and
  every other value is kept, so that only those between braces are replaced unless the value has
  both `${` and a reference without braces;
* `mixed_not_kept`: such a value.
-/

namespace PagePress

namespace Config

/-! ## Pieces -/

/-- A piece of a value: a character or a reference. -/
inductive Piece where
  | char (c : Char)
  /-- A name between braces. -/
  | named (name : List Char)
  /-- A name and a default between braces. -/
  | defaulted (name fallback : List Char)
  /-- A name behind the mark. -/
  | bare (name : List Char)
  /-- The mark twice. -/
  | doubled
  /-- The mark and a brace that is not closed. -/
  | opening
deriving DecidableEq

namespace Piece

/-- A piece as it is written. -/
def written : Piece → List Char
  | char c => [c]
  | named name => '$' :: '\x7b' :: (name ++ ['\x7d'])
  | defaulted name fallback => '$' :: '\x7b' :: (name ++ ':' :: '-' :: (fallback ++ ['\x7d']))
  | bare name => '$' :: name
  | doubled => ['$', '$']
  | opening => ['$', '\x7b']

/-- Whether a piece is read where it stands in front of a text.  What is between braces is as short
as possible, a bare name is as long as possible, and a mark is a character only if no reference
starts with it. -/
def Stands : Piece → List Char → Prop
  | char c, rest =>
      c = '$' → ∀ d ∈ rest.head?, d ≠ '$' ∧ d ≠ '\x7b' ∧ isNameChar d = false
  | named name, _ => '\x7d' ∉ name ∧ ([':', '-'] <:+: name → [':', '-'] <+: name)
  | defaulted name fallback, _ =>
      name ≠ [] ∧ '\x7d' ∉ name ++ fallback ∧ ¬ [':', '-'] <:+: name ++ [':']
  | bare name, rest =>
      name ≠ [] ∧ (∀ c ∈ name, isNameChar c = true) ∧ ∀ d ∈ rest.head?, isNameChar d = false
  | doubled, _ => True
  | opening, rest => '\x7d' ∉ rest

instance : (p : Piece) → (rest : List Char) → Decidable (p.Stands rest)
  | char c, rest => inferInstanceAs (Decidable (c = '$' → ∀ d ∈ rest.head?, _))
  | named _, _ => inferInstanceAs (Decidable (_ ∧ _))
  | defaulted _ _, _ => inferInstanceAs (Decidable (_ ∧ _ ∧ _))
  | bare _, _ => inferInstanceAs (Decidable (_ ∧ _ ∧ _))
  | doubled, _ => .isTrue trivial
  | opening, rest => inferInstanceAs (Decidable ('\x7d' ∉ rest))

/-- What a piece is replaced by, or the name of the variable that is not set. -/
def expanded (env : Environment) : Piece → Except String (List Char)
  | char c => .ok [c]
  | named name => resolve env (String.ofList name) none
  | defaulted name fallback => resolve env (String.ofList name) (some fallback)
  | bare name => resolve env (String.ofList name) none
  | doubled => .ok ['$']
  | opening => .ok ['$', '\x7b']

/-- Whether a piece is a reference without braces. -/
def isUnbraced : Piece → Bool
  | bare _ | doubled => true
  | _ => false

/-- What a piece is replaced by if references without braces are kept. -/
def bracedOnly (env : Environment) (p : Piece) : Except String (List Char) :=
  if p.isUnbraced then .ok p.written else p.expanded env

/-- The variable that a piece cannot do without. -/
def needs? : Piece → Option String
  | named name | bare name => some (String.ofList name)
  | _ => none

theorem written_ne_nil (p : Piece) : p.written ≠ [] := by
  cases p <;> simp [written]

theorem expanded_eq_error {env : Environment} {p : Piece} {name : String} :
    p.expanded env = .error name ↔ p.needs? = some name ∧ env name = none := by
  have hresolve : ∀ s : String,
      resolve env s none = .error name ↔ some s = some name ∧ env name = none := by
    intro s
    unfold resolve
    cases hs : env s with
    | none => grind
    | some v => grind
  cases p with
  | char c => simp [expanded, needs?]
  | named cs => exact hresolve _
  | defaulted cs fallback =>
      cases h : env (String.ofList cs) <;> simp [expanded, needs?, resolve, h]
  | bare cs => exact hresolve _
  | doubled => simp [expanded, needs?]
  | opening => simp [expanded, needs?]

end Piece

/-- Whether every piece is read where it stands in front of those after it. -/
def Stand : List Piece → Prop
  | [] => True
  | p :: ps => p.Stands (ps.flatMap Piece.written) ∧ Stand ps

instance decidableStand : DecidablePred Stand
  | [] => .isTrue trivial
  | _ :: ps => have := decidableStand ps; inferInstanceAs (Decidable (_ ∧ _))

/-- A value as characters and references. -/
structure Reading (value : String) where
  pieces : List Piece
  written_eq : pieces.flatMap Piece.written = value.toList
  stand : Stand pieces

/-- Replaces every piece. -/
def substitute (f : Piece → Except String (List Char)) (ps : List Piece) :
    Except String (List Char) :=
  (ps.mapM f).map List.flatten

theorem substitute_cons (f : Piece → Except String (List Char)) (p : Piece) (ps : List Piece) :
    substitute f (p :: ps) = (do let v ← f p; return v ++ (← substitute f ps)) := by
  rw [substitute, substitute, List.mapM_cons]
  cases f p with
  | error e => rfl
  | ok v => cases ps.mapM f <;> rfl

/-! ## What the scanners find -/

theorem untilBrace?_append {inside : List Char} (h : '\x7d' ∉ inside) (rest : List Char) :
    untilBrace? (inside ++ '\x7d' :: rest) = some (inside, rest) := by
  induction inside with
  | nil => rfl
  | cons c cs ih =>
      rw [List.mem_cons, not_or] at h
      rw [List.cons_append, untilBrace?, if_neg (Ne.symm h.1), ih h.2]
      rfl

theorem untilBrace?_eq_none {cs : List Char} : untilBrace? cs = none ↔ '\x7d' ∉ cs := by
  induction cs with
  | nil => simp [untilBrace?]
  | cons c cs ih =>
      rw [untilBrace?, List.mem_cons, not_or]
      split
      · next hc => simp [hc]
      · next hc => rw [Option.map_eq_none_iff, ih, and_iff_right (Ne.symm hc)]

theorem of_untilBrace? {cs inside rest : List Char} (h : untilBrace? cs = some (inside, rest)) :
    cs = inside ++ '\x7d' :: rest ∧ '\x7d' ∉ inside := by
  induction cs generalizing inside with
  | nil => cases h
  | cons c cs ih =>
      rw [untilBrace?] at h
      split at h
      · next hc =>
          cases h
          exact ⟨by rw [hc, List.nil_append], List.not_mem_nil⟩
      · next hc =>
          obtain ⟨⟨before, after⟩, hx, heq⟩ := Option.map_eq_some_iff.1 h
          obtain ⟨rfl, rfl⟩ := Prod.mk.inj heq
          obtain ⟨rfl, hmem⟩ := ih hx
          exact ⟨rfl, List.not_mem_cons_of_ne_of_not_mem (Ne.symm hc) hmem⟩

theorem splitDefault_cons {c : Char} {cs : List Char} (h : ¬ [':', '-'] <+: c :: cs) :
    splitDefault (c :: cs) =
      (splitDefault cs).map fun (x : List Char × List Char) => (c :: x.1, x.2) := by
  rw [splitDefault]
  rintro rest rfl rfl
  exact h ⟨rest, rfl⟩

theorem splitDefault_eq_none {cs : List Char} :
    splitDefault cs = none ↔ ¬ [':', '-'] <:+: cs := by
  induction cs with
  | nil => simp [splitDefault]
  | cons c cs ih =>
      rw [List.infix_cons_iff, not_or]
      by_cases hpre : [':', '-'] <+: c :: cs
      · obtain ⟨rest, hrest⟩ := hpre
        rw [← hrest]
        simp [splitDefault]
      · rw [splitDefault_cons hpre, Option.map_eq_none_iff, ih]
        simp [hpre]

theorem splitDefault_append {name : List Char} (h : ¬ [':', '-'] <:+: name ++ [':'])
    (rest : List Char) : splitDefault (name ++ ':' :: '-' :: rest) = some (name, rest) := by
  induction name with
  | nil => rfl
  | cons c cs ih =>
      rw [List.cons_append, List.infix_cons_iff, not_or] at h
      have hnot : ¬ [':', '-'] <+: c :: (cs ++ ':' :: '-' :: rest) := by
        intro hpre
        -- The first two characters are those of the name and of the sign behind it.
        refine h.1 (List.prefix_of_prefix_length_le hpre ?_ (by simp))
        exact ⟨'-' :: rest, by simp⟩
      rw [List.cons_append, splitDefault_cons hnot, ih h.2]
      rfl

theorem of_splitDefault {cs name rest : List Char} (h : splitDefault cs = some (name, rest)) :
    cs = name ++ ':' :: '-' :: rest ∧ ¬ [':', '-'] <:+: name ++ [':'] := by
  induction cs generalizing name with
  | nil => cases h
  | cons c cs ih =>
      by_cases hpre : [':', '-'] <+: c :: cs
      · obtain ⟨tail, htail⟩ := hpre
        rw [← htail] at h
        cases h
        exact ⟨htail.symm, by decide⟩
      · rw [splitDefault_cons hpre] at h
        obtain ⟨⟨before, after⟩, hx, heq⟩ := Option.map_eq_some_iff.1 h
        obtain ⟨rfl, rfl⟩ := Prod.mk.inj heq
        obtain ⟨rfl, hin⟩ := ih hx
        refine ⟨rfl, fun hmark => ?_⟩
        rcases List.infix_cons_iff.1 hmark with hstart | hlater
        · exact hpre (hstart.trans ⟨'-' :: after, by simp⟩)
        · exact hin hlater

theorem hasReference_iff {cs : List Char} : hasReference cs = true ↔ ['$', '\x7b'] <:+: cs := by
  induction cs with
  | nil => simp [hasReference]
  | cons c cs ih =>
      rw [List.infix_cons_iff]
      by_cases hpre : ['$', '\x7b'] <+: c :: cs
      · obtain ⟨rest, hrest⟩ := hpre
        rw [← hrest]
        simp [hasReference]
      · have hskip : hasReference (c :: cs) = hasReference cs := by
          rw [hasReference]
          rintro rest rfl rfl
          exact hpre ⟨rest, rfl⟩
        rw [hskip, ih]
        simp [hpre]

theorem braced_named {name : List Char} (h : [':', '-'] <:+: name → [':', '-'] <+: name) :
    braced name = (String.ofList name, none) := by
  by_cases hmark : [':', '-'] <:+: name
  · obtain ⟨rest, rfl⟩ := h hmark
    rfl
  · rw [braced, splitDefault_eq_none.2 hmark]

theorem braced_defaulted {name : List Char} (hne : name ≠ [])
    (h : ¬ [':', '-'] <:+: name ++ [':']) (fallback : List Char) :
    braced (name ++ ':' :: '-' :: fallback) = (String.ofList name, some fallback) := by
  rw [braced, splitDefault_append h]
  cases name with
  | nil => exact absurd rfl hne
  | cons c cs => rfl

/-! ## Steps -/

section

variable (env : Environment) (n : Nat) (cs : List Char)

theorem expandFrom_braced {inside : List Char} (h : '\x7d' ∉ inside) :
    expandFrom env (n + 1) ('$' :: '\x7b' :: (inside ++ '\x7d' :: cs)) = (do
      let value ← resolve env (braced inside).1 (braced inside).2
      return value ++ (← expandFrom env n cs)) := by
  rw [expandFrom, untilBrace?_append h]

variable {cs}

theorem expandFrom_opening (h : '\x7d' ∉ cs) :
    expandFrom env (n + 1) ('$' :: '\x7b' :: cs) =
      (do return '$' :: '\x7b' :: (← expandFrom env n cs)) := by
  rw [expandFrom, untilBrace?_eq_none.2 h]

theorem expandFrom_doubled :
    expandFrom env (n + 1) ('$' :: '$' :: cs) = (do return '$' :: (← expandFrom env n cs)) := by
  rw [expandFrom]

theorem expandFrom_mark (h : ∀ d ∈ cs.head?, d ≠ '$' ∧ d ≠ '\x7b') :
    expandFrom env (n + 1) ('$' :: cs) = (do
      let name := cs.takeWhile isNameChar
      if name.isEmpty then return '$' :: (← expandFrom env n cs)
      let value ← resolve env (String.ofList name) none
      return value ++ (← expandFrom env n (cs.drop name.length))) := by
  rw [expandFrom]
  · rintro rest rfl
    exact (h _ rfl).2 rfl
  · rintro rest rfl
    exact (h _ rfl).1 rfl

theorem expandFrom_char {c : Char} (h : c ≠ '$') :
    expandFrom env (n + 1) (c :: cs) = (do return c :: (← expandFrom env n cs)) := by
  rw [expandFrom]
  · rintro rest rfl
    exact absurd rfl h
  · rintro rest rfl
    exact absurd rfl h
  · exact h

/-- The mark and the opening brace are not part of a name. -/
theorem not_isNameChar : isNameChar '$' = false ∧ isNameChar '\x7b' = false := by
  decide +kernel

/-- One step of the expansion replaces one piece. -/
theorem expandFrom_written {p : Piece} (hp : p.Stands cs) :
    expandFrom env (n + 1) (p.written ++ cs) = (do
      let value ← p.expanded env
      return value ++ (← expandFrom env n cs)) := by
  cases p with
  | char c =>
      by_cases hc : c = '$'
      · subst hc
        -- A mark is kept because no name stands behind it.
        have hhead := hp rfl
        have hname : ([] ++ cs).takeWhile isNameChar = [] :=
          (Text.takeWhile_append_stop (List.forall_mem_nil _) fun d hd => (hhead d hd).2.2).1
        have hstep := expandFrom_mark env n
          fun d hd => ⟨(hhead d hd).1, (hhead d hd).2.1⟩
        rw [List.nil_append] at hname
        rw [hname] at hstep
        exact hstep
      · exact expandFrom_char env n hc
  | named name =>
      obtain ⟨hbrace, hmark⟩ := hp
      have hstep := expandFrom_braced env n cs hbrace
      rw [braced_named hmark] at hstep
      simpa [Piece.written, Piece.expanded] using hstep
  | defaulted name fallback =>
      obtain ⟨hne, hbrace, hmark⟩ := hp
      have hinside : '\x7d' ∉ name ++ ':' :: '-' :: fallback := by
        simpa using hbrace
      have hstep := expandFrom_braced env n cs hinside
      rw [braced_defaulted hne hmark] at hstep
      simpa [Piece.written, Piece.expanded] using hstep
  | bare name =>
      obtain ⟨hne, hall, hhead⟩ := hp
      have hstart : ∀ d ∈ (name ++ cs).head?, d ≠ '$' ∧ d ≠ '\x7b' := by
        intro d hd
        obtain ⟨c, rest, rfl⟩ := List.exists_cons_of_ne_nil hne
        obtain rfl : c = d := Option.some.inj hd
        have hc := hall c (List.mem_cons_self ..)
        constructor <;> rintro rfl <;> simp [not_isNameChar] at hc
      have hstep := expandFrom_mark env n hstart
      rw [(Text.takeWhile_append_stop hall hhead).1] at hstep
      simpa [hne, Piece.written, Piece.expanded] using hstep
  | doubled => exact expandFrom_doubled env n
  | opening => exact expandFrom_opening env n hp

end

/-- Expanding a text replaces the pieces it is read as. -/
theorem expandFrom_eq_substitute (env : Environment) {ps : List Piece} (h : Stand ps) {n : Nat}
    (hn : (ps.flatMap Piece.written).length < n) :
    expandFrom env n (ps.flatMap Piece.written) = substitute (Piece.expanded env) ps := by
  induction ps generalizing n with
  | nil =>
      obtain ⟨m, rfl⟩ : ∃ m, n = m + 1 := Nat.exists_eq_add_one.2 hn
      rfl
  | cons p ps ih =>
      obtain ⟨m, rfl⟩ : ∃ m, n = m + 1 := Nat.exists_eq_add_one.2 (Nat.zero_lt_of_lt hn)
      have hpos := List.length_pos_iff.2 p.written_ne_nil
      rw [List.flatMap_cons, List.length_append] at hn
      rw [List.flatMap_cons, expandFrom_written env m h.1, ih h.2 (by omega), substitute_cons]

/-! ## Every value has a reading -/

theorem exists_piece_of_brace (cs : List Char) :
    ∃ (p : Piece) (rest : List Char),
      '$' :: '\x7b' :: cs = p.written ++ rest ∧ p.Stands rest := by
  cases hclosed : untilBrace? cs with
  | none => exact ⟨.opening, cs, rfl, untilBrace?_eq_none.1 hclosed⟩
  | some found =>
      obtain ⟨inside, rest⟩ := found
      obtain ⟨rfl, hmem⟩ := of_untilBrace? hclosed
      cases hdefault : splitDefault inside with
      | none =>
          have hmark := splitDefault_eq_none.1 hdefault
          exact ⟨.named inside, rest, by simp [Piece.written], hmem, fun h => absurd h hmark⟩
      | some parts =>
          obtain ⟨name, fallback⟩ := parts
          obtain ⟨rfl, hmark⟩ := of_splitDefault hdefault
          -- Without a name in front of it, the mark of a default is part of the name.
          cases name with
          | nil =>
              exact ⟨.named (':' :: '-' :: fallback), rest, by simp [Piece.written], hmem,
                fun _ => ⟨fallback, rfl⟩⟩
          | cons c name =>
              exact ⟨.defaulted (c :: name) fallback, rest, by simp [Piece.written],
                List.cons_ne_nil c name, by simpa using hmem, hmark⟩

/-- A piece is read at the start of every text that is not empty. -/
theorem exists_piece (c : Char) (cs : List Char) :
    ∃ (p : Piece) (rest : List Char), c :: cs = p.written ++ rest ∧ p.Stands rest := by
  by_cases hc : c = '$'
  · subst hc
    by_cases hname : cs.takeWhile isNameChar = []
    · rcases cs with _ | ⟨d, ds⟩
      · exact ⟨.char '$', [], rfl, by simp [Piece.Stands]⟩
      · by_cases hdoubled : d = '$'
        · subst hdoubled
          exact ⟨.doubled, ds, rfl, trivial⟩
        · by_cases hbrace : d = '\x7b'
          · subst hbrace
            exact exists_piece_of_brace ds
          · have hd : isNameChar d = false := by simpa [List.takeWhile_cons] using hname
            exact ⟨.char '$', d :: ds, rfl, by simp [Piece.Stands, hdoubled, hbrace, hd]⟩
    · refine ⟨.bare (cs.takeWhile isNameChar), cs.dropWhile isNameChar, ?_, hname,
        fun c hc => List.all_eq_true.1 List.all_takeWhile c hc, fun d hd => ?_⟩
      · exact congrArg ('$' :: ·) List.takeWhile_append_dropWhile.symm
      · have hnot := List.head?_dropWhile_not isNameChar cs
        rw [Option.mem_def.1 hd] at hnot
        simpa using hnot
  · exact ⟨.char c, cs, rfl, fun h => absurd h hc⟩

theorem exists_stand (cs : List Char) :
    ∃ ps : List Piece, ps.flatMap Piece.written = cs ∧ Stand ps := by
  -- A piece is not empty, so that what is behind it is shorter.
  induction hn : cs.length using Nat.strong_induction_on generalizing cs with
  | _ n ih =>
      cases cs with
      | nil => exact ⟨[], rfl, trivial⟩
      | cons c cs =>
          obtain ⟨p, rest, heq, hp⟩ := exists_piece c cs
          have hpos := List.length_pos_iff.2 p.written_ne_nil
          have hlength := congrArg List.length heq
          rw [List.length_append, hn] at hlength
          obtain ⟨ps, rfl, hps⟩ := ih rest.length (by omega) rest rfl
          exact ⟨p :: ps, heq.symm, hp, hps⟩

/-! ## What is replaced -/

theorem substitute_congr {f g : Piece → Except String (List Char)} {ps : List Piece}
    (h : ∀ p ∈ ps, f p = g p) : substitute f ps = substitute g ps := by
  induction ps with
  | nil => rfl
  | cons p ps ih =>
      rw [List.forall_mem_cons] at h
      rw [substitute_cons, substitute_cons, h.1, ih h.2]

theorem substitute_written (ps : List Piece) :
    substitute (fun p => .ok p.written) ps = .ok (ps.flatMap Piece.written) := by
  induction ps with
  | nil => rfl
  | cons p ps ih =>
      rw [substitute_cons, ih]
      rfl

/-- The error is the first variable that is needed and not set. -/
theorem substitute_eq_error {env : Environment} {ps : List Piece} {name : String} :
    substitute (Piece.expanded env) ps = .error name ↔
      (ps.filterMap Piece.needs?).find? (fun s => (env s).isNone) = some name := by
  induction ps with
  | nil => simp [substitute, pure, Except.pure, Except.map]
  | cons p ps ih =>
      rw [substitute_cons]
      cases hp : p.expanded env with
      | error e =>
          obtain ⟨hneeds, hnone⟩ := Piece.expanded_eq_error.1 hp
          rw [List.filterMap_cons_some hneeds, List.find?_cons_of_pos (by simp [hnone])]
          simp [bind, Except.bind]
      | ok v =>
          have hskip : ((p :: ps).filterMap Piece.needs?).find? (fun s => (env s).isNone) =
              (ps.filterMap Piece.needs?).find? fun s => (env s).isNone := by
            cases hneeds : p.needs? with
            | none => rw [List.filterMap_cons_none hneeds]
            | some s =>
                have hset : (env s).isNone = false := by
                  rw [Bool.eq_false_iff, ne_eq, Option.isNone_iff_eq_none]
                  intro hnone
                  rw [Piece.expanded_eq_error.2 ⟨hneeds, hnone⟩] at hp
                  cases hp
                rw [List.filterMap_cons_some hneeds, List.find?_cons_of_neg (by simp [hset])]
          rw [hskip, ← ih]
          cases substitute (Piece.expanded env) ps <;> simp [bind, Except.bind, pure, Except.pure]

/-- Without an opening brace behind the mark there is nothing to replace between braces. -/
theorem Piece.bracedOnly_eq_written {p : Piece} (h : ¬ ['$', '\x7b'] <+: p.written)
    (env : Environment) : p.bracedOnly env = .ok p.written := by
  cases p with
  | char c => rfl
  | named name => exact absurd ⟨name ++ ['\x7d'], rfl⟩ h
  | defaulted name fallback => exact absurd ⟨name ++ ':' :: '-' :: (fallback ++ ['\x7d']), rfl⟩ h
  | bare name => rfl
  | doubled => rfl
  | opening => rfl

/-- With every variable set to nothing, replacing a reference without braces makes a text shorter
than keeping it does. -/
theorem substitute_shorter (ps : List Piece) :
    ∃ short long,
      substitute (Piece.expanded fun _ => some "") ps = .ok short ∧
      substitute (Piece.bracedOnly fun _ => some "") ps = .ok long ∧
      short.length ≤ long.length ∧
      ((∃ p ∈ ps, p.isUnbraced = true) → short.length < long.length) := by
  induction ps with
  | nil => exact ⟨[], [], rfl, rfl, Nat.le_refl _, fun h => by simp at h⟩
  | cons p ps ih =>
      obtain ⟨short, long, hshort, hlong, hle, hlt⟩ := ih
      obtain ⟨s, l, hs, hl, hsl, hunbraced⟩ : ∃ s l : List Char,
          p.expanded (fun _ => some "") = .ok s ∧ p.bracedOnly (fun _ => some "") = .ok l ∧
            s.length ≤ l.length ∧ (p.isUnbraced = true → s.length < l.length) := by
        cases p with
        | bare name => exact ⟨[], '$' :: name, rfl, rfl, by simp, fun _ => by simp⟩
        | doubled => exact ⟨['$'], ['$', '$'], rfl, rfl, by simp, fun _ => by simp⟩
        | _ => exact ⟨_, _, rfl, rfl, Nat.le_refl _, fun h => by cases h⟩
      refine ⟨s ++ short, l ++ long, ?_, ?_, ?_, ?_⟩
      · rw [substitute_cons, hs, hshort]
        rfl
      · rw [substitute_cons, hl, hlong]
        rfl
      · rw [List.length_append, List.length_append]
        omega
      · rintro ⟨q, hq, hmark⟩
        rw [List.length_append, List.length_append]
        rcases List.mem_cons.1 hq with rfl | hq
        · have := hunbraced hmark
          omega
        · have := hlt ⟨q, hq, hmark⟩
          omega

section

variable {value : String}

theorem Reading.nonempty (value : String) : Nonempty (Reading value) := by
  obtain ⟨ps, hwritten, hstand⟩ := exists_stand value.toList
  exact ⟨⟨ps, hwritten, hstand⟩⟩

theorem expand_eq_substitute (r : Reading value) (env : Environment) :
    expand env value =
      if ['$', '\x7b'] <:+: value.toList then
        (substitute (Piece.expanded env) r.pieces).map String.ofList
      else .ok value := by
  have hfuel : (r.pieces.flatMap Piece.written).length < value.length + 1 := by
    rw [r.written_eq, String.length_toList]
    exact Nat.lt_succ_self _
  have hrun := expandFrom_eq_substitute env r.stand hfuel
  rw [r.written_eq] at hrun
  simp only [expand, hasReference_iff, hrun]

/-- Without `${` in a value, everything in it is kept. -/
theorem substitute_bracedOnly (r : Reading value) (h : ¬ ['$', '\x7b'] <:+: value.toList)
    (env : Environment) : substitute (Piece.bracedOnly env) r.pieces = .ok value.toList := by
  have hkept : ∀ p ∈ r.pieces, p.bracedOnly env = .ok p.written := by
    intro p hp
    refine Piece.bracedOnly_eq_written (fun hpre => h ?_) env
    obtain ⟨before, after, hsplit⟩ := List.append_of_mem hp
    rw [← r.written_eq, hsplit, List.flatMap_append, List.flatMap_cons]
    exact hpre.isInfix.trans ⟨_, _, List.append_assoc ..⟩
  rw [substitute_congr hkept, substitute_written, r.written_eq]

end

/-- A value can be read as characters and references.  If it has `${` in it, every reference is
replaced, also those without braces, and otherwise the value is kept.  So the references without
braces are kept, whatever the environment, exactly if there are none of them beside a `${`.  The
error is the first variable that a reference has no default for and that is not set. -/
theorem expand_reading (value : String) :
    Nonempty (Reading value) ∧ ∀ r : Reading value,
      (∀ env, expand env value =
        if ['$', '\x7b'] <:+: value.toList then
          (substitute (Piece.expanded env) r.pieces).map String.ofList
        else .ok value) ∧
      ((∀ env, expand env value =
          (substitute (Piece.bracedOnly env) r.pieces).map String.ofList) ↔
        (['$', '\x7b'] <:+: value.toList → ∀ p ∈ r.pieces, p.isUnbraced = false)) ∧
      ∀ env field e, expandField env field value = .error e ↔
        ['$', '\x7b'] <:+: value.toList ∧ ∃ name,
          (r.pieces.filterMap Piece.needs?).find? (fun s => (env s).isNone) = some name ∧
            e = .notSet field name := by
  refine ⟨Reading.nonempty value, fun r => ⟨expand_eq_substitute r, ⟨?_, ?_⟩, ?_⟩⟩
  · intro hkept hin p hp
    by_contra hunbraced
    -- With every variable empty, the two texts have different lengths.
    obtain ⟨short, long, hshort, hlong, -, hlt⟩ := substitute_shorter r.pieces
    have hsame := hkept fun _ => some ""
    rw [expand_eq_substitute r, if_pos hin, hshort, hlong] at hsame
    have hlength := hlt ⟨p, hp, by simpa using hunbraced⟩
    rw [String.ofList_injective (Except.ok.inj hsame)] at hlength
    exact Nat.lt_irrefl _ hlength
  · intro hnone env
    rw [expand_eq_substitute r]
    split
    · next hin =>
        rw [substitute_congr fun p hp => ?_]
        rw [Piece.bracedOnly, if_neg (by simp [hnone hin p hp])]
    · next hin =>
        rw [substitute_bracedOnly r hin]
        exact congrArg Except.ok String.ofList_toList.symm
  · intro env field e
    rw [expandField, expand_eq_substitute r]
    split
    · next hin =>
        rw [and_iff_right hin]
        simp only [← substitute_eq_error]
        cases substitute (Piece.expanded env) r.pieces with
        | error name =>
            constructor
            · rintro ⟨⟩
              exact ⟨name, rfl, rfl⟩
            · rintro ⟨_, ⟨⟩, rfl⟩
              rfl
        | ok v =>
            constructor
            · rintro ⟨⟩
            · rintro ⟨_, ⟨⟩, _⟩
    · next hin => simp [hin, Except.mapError]

/-- A doubled mark in front of a name with a default. -/
def priced : String := "$$$\x7bA:-x\x7d"

def pricedReading : Reading priced where
  pieces := [.doubled, .defaulted ['A'] ['x']]
  written_eq := by decide +kernel
  stand := by decide

theorem priced_read :
    expand (fun _ => none) priced = .ok "$x" ∧
      (∀ field e, expandField (fun _ => none) field priced ≠ .error e) ∧
      ¬ ∀ env, expand env priced =
        (substitute (Piece.bracedOnly env) pricedReading.pieces).map String.ofList := by
  obtain ⟨hexpand, hkept, herror⟩ := (expand_reading priced).2 pricedReading
  have hin : ['$', '\x7b'] <:+: priced.toList := by decide +kernel
  refine ⟨?_, fun field e h => ?_, fun h => ?_⟩
  · rw [hexpand, if_pos hin]
    decide +kernel
  · obtain ⟨-, name, hname, -⟩ := (herror _ field e).1 h
    cases hname
  · have hunbraced := hkept.1 h hin .doubled (List.mem_cons_self ..)
    cases hunbraced

/-- A reference between braces, a bare name and a doubled mark. -/
def mixed : String := "$\x7bA\x7d$B$$"

def mixedReading : Reading mixed where
  pieces := [.named ['A'], .bare ['B'], .doubled]
  written_eq := by decide +kernel
  stand := by
    have hB : isNameChar 'B' = true := by decide +kernel
    refine ⟨⟨by decide, by decide⟩, ⟨by decide, ?_, ?_⟩, trivial, trivial⟩
    · exact List.forall_mem_singleton.2 hB
    · rintro d ⟨⟩
      exact not_isNameChar.1

/-- An environment of one variable. -/
def single : Environment := fun name => if name = "A" then some "a" else none

/-- An environment of two variables. -/
def double : Environment := fun name => if name = "B" then some "b" else single name

/-- The bare name and the doubled mark are not kept, and the bare name is reported if it is not
set. -/
theorem mixed_not_kept :
    expand double mixed = .ok "ab$" ∧
      (substitute (Piece.bracedOnly double) mixedReading.pieces).map String.ofList = .ok "a$B$$" ∧
      expandField single "secrets.X" mixed = .error (.notSet "secrets.X" "B") ∧
      (substitute (Piece.bracedOnly single) mixedReading.pieces).map String.ofList =
        .ok "a$B$$" := by
  decide +kernel

end Config

end PagePress

import PagePress.Proofs.Pipeline.Machine

/-!
# Registration — the order that calls leave, and calls that leave nothing

Calls register stages in any order of the phases, and some of them are refused.

* `register_run`: a call in place has the effect and the answer of `Pipeline.add`;
* `registerAll_append` and `registerAll_snd`: calls go on from the pipeline that those before
  them left, which keeps the stages of each phase in the order of the calls;
* `answerTo` is what a call is told, which depends on the main stages before it only;
* `registerAll_ordered`: any calls leave the stages in their order and are answered as said, and
  without a refused call the pipeline and the other answers are the same.
-/

namespace PagePress

namespace Pipeline

/-! ## Calls -/

/-- A call leaves what `add` gives, or the pipeline as it was and the reason. -/
theorem register_run (phase : Phase) (stage : Stage) (p : Pipeline) :
    (register phase stage).run.run p =
      match p.add phase stage with
      | .ok q => (.ok (), q)
      | .error e => (.error e, p) := by
  rcases p with ⟨pre, main, post⟩
  cases phase with
  | pre => rfl
  | post => rfl
  | once => cases main <;> rfl

theorem registerAll_cons (call : Phase × Stage) (calls : List (Phase × Stage)) (p : Pipeline) :
    (registerAll (call :: calls)).run p =
      let first := (register call.1 call.2).run.run p
      let rest := (registerAll calls).run first.2
      (first.1 :: rest.1, rest.2) := rfl

theorem registerAll_append (calls later : List (Phase × Stage)) :
    ∀ p : Pipeline, (registerAll (calls ++ later)).run p =
      let first := (registerAll calls).run p
      let rest := (registerAll later).run first.2
      (first.1 ++ rest.1, rest.2) := by
  induction calls with
  | nil =>
      intro p
      rfl
  | cons call calls ih =>
      intro p
      simp only [List.cons_append, registerAll_cons, ih]

/-- Every call is answered. -/
theorem length_registerAll (calls : List (Phase × Stage)) :
    ∀ p : Pipeline, ((registerAll calls).run p).1.length = calls.length := by
  induction calls with
  | nil =>
      intro p
      rfl
  | cons call calls ih =>
      intro p
      simp only [registerAll_cons, List.length_cons, ih]

theorem register_snd (phase : Phase) (stage : Stage) (p : Pipeline) :
    ((register phase stage).run.run p).2 = (p.add phase stage).toOption.getD p := by
  rw [register_run]
  cases p.add phase stage <;> rfl

/-- What is left does not depend on how the calls are answered. -/
theorem registerAll_snd (calls : List (Phase × Stage)) :
    ∀ p : Pipeline, ((registerAll calls).run p).2 = p.addAll calls := by
  induction calls with
  | nil =>
      intro p
      rfl
  | cons call calls ih =>
      intro p
      simp only [registerAll_cons, ih, register_snd]
      rfl

/-! ## Answers -/

/-- What a call is told after others: a main stage is refused in favour of the first one. -/
def answerTo (call : Phase × Stage) (earlier : List (Phase × Stage)) :
    Except RegistrationError Unit :=
  match call.1, (stagesOf .once earlier).head? with
  | .once, some first => .error (.duplicateMainStage first.name call.2.name)
  | _, _ => .ok ()

theorem register_fst (call : Phase × Stage) (earlier : List (Phase × Stage)) :
    ((register call.1 call.2).run.run ((registerAll earlier).run empty).2).1 =
      answerTo call earlier := by
  -- The main stage of the pipeline is the first one that the calls so far were about.
  have hmain : ((registerAll earlier).run empty).2.main = (stagesOf .once earlier).head? := by
    rw [registerAll_snd, addAll_eq]
    rfl
  rw [register_run, answerTo, ← hmain]
  generalize ((registerAll earlier).run empty).2 = p
  rcases call with ⟨phase, stage⟩
  cases phase with
  | pre => rfl
  | post => rfl
  | once => cases h : p.main <;> simp [add, h]

theorem registerAll_split (earlier : List (Phase × Stage)) (call : Phase × Stage)
    (later : List (Phase × Stage)) :
    (registerAll (earlier ++ call :: later)).run empty =
      let before := (registerAll earlier).run empty
      let after := (registerAll later).run ((register call.1 call.2).run.run before.2).2
      (before.1 ++ answerTo call earlier :: after.1, after.2) := by
  simp only [registerAll_append, registerAll_cons, register_fst]

/-- A refused call changes nothing. -/
theorem register_refused {call : Phase × Stage} {p : Pipeline}
    (h : ((register call.1 call.2).run.run p).1 ≠ .ok ()) :
    ((register call.1 call.2).run.run p).2 = p := by
  rw [register_run] at h ⊢
  cases hadd : p.add call.1 call.2 with
  | error e => rfl
  | ok q =>
      rw [hadd] at h
      exact absurd rfl h

/-! ## Calls in any order -/

theorem stageNames_addAll (calls : List (Phase × Stage)) :
    (empty.addAll calls).stageNames =
      (stagesOf .pre calls ++ (stagesOf .once calls).head?.toList ++ stagesOf .post calls).map
        Stage.name := by
  simp [addAll_eq, empty, stageNames, stages, Function.comp_def]

/-- Stages stand in the order of the calls, those before the main stage first, then the first main
stage, then those after it.  Another main stage is refused with the names of both, and the
pipeline and the answers to all other calls, earlier and later, are as they are without it. -/
theorem registerAll_ordered (calls : List (Phase × Stage)) :
    let told := ((registerAll calls).run empty).1
    let left := ((registerAll calls).run empty).2
    left.stageNames =
        (stagesOf .pre calls ++ (stagesOf .once calls).head?.toList ++ stagesOf .post calls).map
          Stage.name ∧
      told.length = calls.length ∧
      ∀ earlier call later, calls = earlier ++ call :: later →
        told[earlier.length]? = some (answerTo call earlier) ∧
        (answerTo call earlier ≠ .ok () →
          (registerAll (earlier ++ later)).run empty = (told.eraseIdx earlier.length, left)) := by
  intro told left
  refine ⟨?_, length_registerAll calls empty, ?_⟩
  · rw [← stageNames_addAll]
    exact congrArg stageNames (registerAll_snd calls empty)
  · rintro earlier call later rfl
    have hlen := length_registerAll earlier empty
    simp only [told, left, registerAll_split]
    refine ⟨?_, ?_⟩
    · rw [List.getElem?_append_right (Nat.le_of_eq hlen), hlen, Nat.sub_self]
      rfl
    · -- The later calls find the pipeline that the earlier ones left.
      intro hrefused
      rw [← register_fst] at hrefused
      rw [register_refused hrefused, List.eraseIdx_append_of_length_le (Nat.le_of_eq hlen), hlen,
        Nat.sub_self]
      exact registerAll_append earlier later empty

end Pipeline

end PagePress

import Lexing.Round

/-!
# Who decides a round

Recognizers are tried one after the other, and the failure that got furthest so far is carried
along. What comes out can be told from the list as a whole: the first that succeeds decides,
whatever failed before it. If none does, the first of the longest failures decides, where those with
nothing to say do not count.

## Main definitions

* `Recognizer.Furthest`: the failure that got furthest among recognizers that all failed
* `Recognizer.Decides`: the verdict of a list of recognizers

## Main results

* `Recognizer.decides_judge`: trying them in order finds that verdict
* `Recognizer.Furthest.unique`: only one failure got furthest
* `Recognizer.judge_of_furthest`: where a failure got furthest, it is the verdict
* `Recognizer.judge_eq_iff`: the verdict that is found is the only one
-/

namespace Lexing.Recognizer

/-- The failure that got furthest among recognizers that all failed, if one has anything to say.
Those before it got less far, or had nothing to say; those after it got no further. -/
inductive Furthest (text : Text) (tried : List Recognizer) : Option Failure → Prop
  | silent (silent : ∀ recognizer ∈ tried, recognizer.run text = .none) : Furthest text tried none
  | first {before after : List Recognizer} {recognizer : Recognizer} {failure : Failure}
      (split : tried = before ++ recognizer :: after) (ran : recognizer.run text = .failure failure)
      (telling : failure ≠ .none)
      (shorter : ∀ other ∈ before, ∃ early, other.run text = .failure early ∧
        (early = .none ∨ early.claim.length < failure.claim.length))
      (noLonger : ∀ other ∈ after, ∃ late, other.run text = .failure late ∧
        late.claim.length ≤ failure.claim.length) : Furthest text tried (some failure)

/-- The verdict of a list of recognizers. -/
inductive Decides (text : Text) (recognizers : List Recognizer) : Verdict → Prop
  /-- One succeeds, and all before it fail. -/
  | accepted {before after : List Recognizer} {recognizer : Recognizer} {success : Success}
      (split : recognizers = before ++ recognizer :: after)
      (ran : recognizer.run text = .success success)
      (failed : ∀ other ∈ before, ∃ failure, other.run text = .failure failure) :
      Decides text recognizers (.accepted success)
  | rejected {failure : Failure} (furthest : Furthest text recognizers (some failure)) :
      Decides text recognizers (.rejected failure)
  | unexpected (silent : Furthest text recognizers none) : Decides text recognizers .unexpected

variable {text : Text} {tried : List Recognizer} {deepest : Option Failure}

namespace Furthest

/-- No failure got further than the one that got furthest. -/
theorem exists_le_of_mem {deep : Failure} (furthest : Furthest text tried (some deep)) :
    ∀ recognizer ∈ tried, ∃ failure, recognizer.run text = .failure failure ∧
      failure.claim.length ≤ deep.claim.length := by
  obtain _ | ⟨split, ran, telling, shorter, noLonger⟩ := furthest
  intro other member
  rw [split] at member
  rcases List.mem_append.1 member with early | rest
  · obtain ⟨failure, failed, rfl | less⟩ := shorter other early
    · exact ⟨_, failed, Nat.zero_le _⟩
    · exact ⟨failure, failed, Nat.le_of_lt less⟩
  · rcases List.mem_cons.1 rest with rfl | late
    · exact ⟨deep, ran, Nat.le_refl _⟩
    · exact noLonger other late

/-- The failure that got furthest is one of theirs. -/
theorem exists_mem {deep : Failure} (furthest : Furthest text tried (some deep)) :
    ∃ recognizer ∈ tried, recognizer.run text = .failure deep := by
  obtain _ | @⟨before, after, holder, _, split, ran, -, -, -⟩ := furthest
  exact ⟨holder, by simp [split], ran⟩

/-- All recognizers failed among whose failures one got furthest. -/
theorem failed (furthest : Furthest text tried deepest) :
    ∀ recognizer ∈ tried, ∃ failure, recognizer.run text = .failure failure := by
  intro recognizer member
  cases deepest with
  | none =>
    obtain ⟨silent⟩ := furthest
    exact ⟨.none, silent recognizer member⟩
  | some deep =>
    obtain ⟨failure, failed, -⟩ := furthest.exists_le_of_mem recognizer member
    exact ⟨failure, failed⟩

/-- A recognizer whose failure got furthest does not stand before another of that kind. -/
theorem not_mem_of_shorter {holder : Recognizer} {before : List Recognizer} {one other : Failure}
    (ran : holder.run text = .failure one) (telling : one ≠ .none)
    (le : other.claim.length ≤ one.claim.length)
    (shorter : ∀ recognizer ∈ before, ∃ early, recognizer.run text = .failure early ∧
      (early = .none ∨ early.claim.length < other.claim.length)) : holder ∉ before := by
  intro member
  obtain ⟨early, failed, less⟩ := shorter holder member
  rw [ran, Outcome.failure.injEq] at failed
  subst failed
  rcases less with silent | less
  · exact telling silent
  · omega

/-- Only one failure got furthest. -/
theorem unique {one other : Failure} (first : Furthest text tried (some one))
    (second : Furthest text tried (some other)) : one = other := by
  have le := second.exists_le_of_mem
  have ge := first.exists_le_of_mem
  obtain _ | @⟨before, after, holder, _, split, ran, telling, shorter, -⟩ := first
  obtain _ | @⟨before', after', holder', _, split', ran', telling', shorter', -⟩ := second
  -- Neither is longer than the other, so neither holder may stand before the other.
  have least : one.claim.length ≤ other.claim.length := by
    obtain ⟨failure, failed, le⟩ := le holder (by simp [split])
    rw [ran, Outcome.failure.injEq] at failed
    rwa [failed]
  have greatest : other.claim.length ≤ one.claim.length := by
    obtain ⟨failure, failed, ge⟩ := ge holder' (by simp [split'])
    rw [ran', Outcome.failure.injEq] at failed
    rwa [failed]
  have apart := not_mem_of_shorter ran telling greatest shorter'
  have apart' := not_mem_of_shorter ran' telling' least shorter
  rw [split] at split'
  rcases List.append_eq_append_iff.1 split' with ⟨between, same, rest⟩ | ⟨between, same, rest⟩
  · cases between with
    | nil =>
      obtain rfl := (List.cons.inj rest).1
      exact Outcome.failure.inj (ran.symm.trans ran')
    | cons next between =>
      obtain rfl := (List.cons.inj rest).1
      exact absurd (by simp [same]) apart
  · cases between with
    | nil =>
      obtain rfl := (List.cons.inj rest).1
      exact Outcome.failure.inj (ran.symm.trans ran')
    | cons next between =>
      obtain rfl := (List.cons.inj rest).1
      exact absurd (by simp [same]) apart'

variable {recognizer : Recognizer} {failure : Failure}

/-- A failure that gets no further changes nothing. -/
theorem snoc_of_le {deep : Failure} (furthest : Furthest text tried (some deep))
    (ran : recognizer.run text = .failure failure)
    (le : failure.claim.length ≤ deep.claim.length) :
    Furthest text (tried ++ [recognizer]) (some deep) := by
  obtain _ | @⟨before, after, holder, _, split, found, telling, shorter, noLonger⟩ := furthest
  have longer : tried ++ [recognizer] = before ++ holder :: (after ++ [recognizer]) := by
    rw [split, List.append_assoc, List.cons_append]
  refine .first longer found telling shorter ?_
  intro other member
  rcases List.mem_append.1 member with before | last
  · exact noLonger other before
  · rw [List.mem_singleton.1 last]
    exact ⟨failure, ran, le⟩

/-- A failure that gets further than all before it takes their place. -/
theorem snoc_of_lt (ran : recognizer.run text = .failure failure) (telling : failure ≠ .none)
    (less : ∀ other ∈ tried, ∃ early, other.run text = .failure early ∧
      (early = .none ∨ early.claim.length < failure.claim.length)) :
    Furthest text (tried ++ [recognizer]) (some failure) :=
  .first rfl ran telling less fun _ member => absurd member List.not_mem_nil

/-- One more failure is compared with the one that got furthest so far. -/
theorem snoc (furthest : Furthest text tried deepest)
    (ran : recognizer.run text = .failure failure) :
    Furthest text (tried ++ [recognizer]) (further deepest failure) := by
  by_cases silent : failure = .none
  · have same : further deepest failure = deepest := if_pos (Failure.isNone_iff.2 silent)
    rw [same]
    cases deepest with
    | some deep => exact furthest.snoc_of_le ran (by rw [silent]; exact Nat.zero_le _)
    | none =>
      obtain ⟨others⟩ := furthest
      rw [silent] at ran
      exact .silent (List.forall_mem_append.2 ⟨others, List.forall_mem_singleton.2 ran⟩)
  · have telling : failure.isNone = false := by
      rw [Bool.eq_false_iff, Ne, Failure.isNone_iff]
      exact silent
    cases deepest with
    | none =>
      obtain ⟨others⟩ := furthest
      rw [further, telling]
      exact snoc_of_lt ran silent fun other member => ⟨_, others other member, .inl rfl⟩
    | some deep =>
      by_cases less : deep.claim.length < failure.claim.length
      · rw [further, telling]
        simp only [Bool.false_eq_true, if_false, less, if_true]
        refine snoc_of_lt ran silent fun other member => ?_
        obtain ⟨early, failed, le⟩ := furthest.exists_le_of_mem other member
        exact ⟨early, failed, .inr (by omega)⟩
      · rw [further, telling]
        simp only [Bool.false_eq_true, if_false, less]
        exact furthest.snoc_of_le ran (Nat.not_lt.1 less)

end Furthest

/-- Trying the rest of the recognizers finds the verdict of them all. -/
theorem Furthest.decides_judgeFrom (furthest : Furthest text tried deepest)
    (recognizers : List Recognizer) :
    Decides text (tried ++ recognizers) (judgeFrom text deepest recognizers) := by
  induction recognizers generalizing tried deepest with
  | nil =>
    rw [List.append_nil]
    cases deepest with
    | none => exact .unexpected furthest
    | some failure => exact .rejected furthest
  | cons recognizer recognizers ih =>
    rw [judgeFrom]
    cases ran : recognizer.run text with
    | success success => exact .accepted rfl ran furthest.failed
    | failure failure =>
      have later := ih (furthest.snoc ran)
      rw [List.append_assoc] at later
      exact later

/-- Trying recognizers in order finds their verdict. -/
theorem decides_judge (recognizers : List Recognizer) (text : Text) :
    Decides text recognizers (judge recognizers text) := by
  have begin : Furthest text [] none := .silent (by simp)
  exact begin.decides_judgeFrom recognizers

/-- Where a failure got furthest, it is the verdict. -/
theorem judge_of_furthest {recognizers : List Recognizer} {failure : Failure}
    (furthest : Furthest text recognizers (some failure)) :
    judge recognizers text = .rejected failure := by
  have decides := decides_judge recognizers text
  generalize judge recognizers text = verdict at *
  cases decides with
  | @accepted before after recognizer success split ran failed =>
    obtain ⟨other, lost⟩ := furthest.failed recognizer (by simp [split])
    rw [ran] at lost
    contradiction
  | rejected also => rw [furthest.unique also]
  | unexpected silent =>
    obtain _ | @⟨before, after, holder, _, split, ran, telling, -, -⟩ := furthest
    obtain ⟨silent⟩ := silent
    have quiet := silent holder (by simp [split])
    rw [ran, Outcome.none, Outcome.failure.injEq] at quiet
    exact absurd quiet telling

/-- The first success is the verdict, whatever failed before it. -/
theorem judgeFrom_of_first {before after : List Recognizer} {recognizer : Recognizer}
    {success : Success} (ran : recognizer.run text = .success success)
    (failed : ∀ other ∈ before, ∃ failure, other.run text = .failure failure) :
    judgeFrom text deepest (before ++ recognizer :: after) = .accepted success := by
  -- What failed so far is carried along and forgotten at the success.
  induction before generalizing deepest with
  | nil => rw [List.nil_append, judgeFrom, ran]
  | cons other before ih =>
    obtain ⟨⟨failure, lost⟩, others⟩ := List.forall_mem_cons.1 failed
    rw [List.cons_append, judgeFrom, lost]
    exact ih others

/-- Recognizers that all have no business with a text leave it unexpected. -/
theorem judge_of_silent {recognizers : List Recognizer}
    (silent : ∀ recognizer ∈ recognizers, recognizer.run text = .none) :
    judge recognizers text = .unexpected := by
  induction recognizers with
  | nil => rfl
  | cons recognizer recognizers ih =>
    obtain ⟨ran, others⟩ := List.forall_mem_cons.1 silent
    rw [judge, judgeFrom, ran]
    exact ih others

/-- A list of recognizers has one verdict only, and trying them in order finds it. -/
theorem judge_eq_iff {recognizers : List Recognizer} {verdict : Verdict} :
    judge recognizers text = verdict ↔ Decides text recognizers verdict := by
  constructor
  · rintro rfl
    exact decides_judge recognizers text
  · intro decides
    cases decides with
    | accepted split ran failed =>
      rw [judge, split]
      exact judgeFrom_of_first ran failed
    | rejected furthest => exact judge_of_furthest furthest
    | unexpected silent =>
      obtain ⟨silent⟩ := silent
      exact judge_of_silent silent

end Lexing.Recognizer

import Cutout.Codec.Webp.Lossy
import Cutout.Codec.Webp.Lossy.Head
import Cutout.Proofs.Codec.Webp.Decider

/-!
# Heads and plans are read as they were written

`Takes` says that a reader takes some decisions and gives a value, and that it is ready for whatever
decisions follow. It is put together along a reader with `bind`, as the writer puts its decisions
together. In front of the squares there are the head, which is `plainHead` (`takes_readHead`), and the
plans, by which every square is predicted by its mean (`takes_readPlanRows`).
-/

namespace Cutout.Webp.Lossy

/-! ## Taking decisions -/

/-- A reader takes these decisions and gives this value. -/
def Takes {α : Type} (read : Deciding α) (ds : List Decision) (a : α) : Prop :=
  ∀ d rest, Follows d (ds ++ rest) → ∃ d', read d = .ok (a, d') ∧ Follows d' rest

namespace Takes

variable {α β : Type}

theorem pure (a : α) : Takes (pure a) [] a :=
  fun d _ h => ⟨d, rfl, h⟩

theorem bind {read : Deciding α} {next : α → Deciding β} {ds ds' : List Decision} {a : α} {b : β}
    (h : Takes read ds a) (h' : Takes (next a) ds' b) : Takes (read >>= next) (ds ++ ds') b := by
  intro d rest hd
  rw [List.append_assoc] at hd
  obtain ⟨d', hread, hd'⟩ := h d _ hd
  obtain ⟨d'', hnext, hd''⟩ := h' d' rest hd'
  refine ⟨d'', ?_, hd''⟩
  show (read d).bind (fun r => next r.1 r.2) = _
  rw [hread]
  exact hnext

/-- A step behind which no further decision is needed. -/
theorem bind_last {read : Deciding α} {next : α → Deciding β} {ds : List Decision} {a : α} {b : β}
    (h : Takes read ds a) (h' : Takes (next a) [] b) : Takes (read >>= next) ds b := by
  have hboth := h.bind h'
  rwa [List.append_nil] at hboth

theorem bind_pure {read : Deciding α} {f : α → β} {ds : List Decision} {a : α}
    (h : Takes read ds a) : Takes (do let x ← read; return f x) ds (f a) :=
  h.bind_last (pure (f a))

end Takes

theorem takes_decision (first : Nat) (b : Bool) : Takes (decision first) [⟨first, b⟩] b := by
  rintro d rest ⟨hleft, hsecond, hrest⟩
  have hsecond : (d.next first).1 = b := hsecond
  refine ⟨(d.next first).2, ?_, hrest⟩
  unfold decision
  rw [if_neg hleft, ← hsecond]

theorem takes_evenDecision (b : Bool) : Takes evenDecision [.even b] b :=
  takes_decision 128 b

theorem takes_numberFrom (bits acc n : Nat) :
    Takes (numberFrom bits acc) (number bits n) (acc * 2 ^ bits + n % 2 ^ bits) := by
  induction bits generalizing acc with
  | zero =>
    rw [Nat.pow_zero, Nat.mod_one, Nat.mul_one]
    exact .pure acc
  | succ bits ih =>
    have hvalue : acc * 2 ^ (bits + 1) + n % 2 ^ (bits + 1) =
        (2 * acc + (n.testBit bits).toNat) * 2 ^ bits + n % 2 ^ bits := by
      rw [Nat.mod_pow_succ, Nat.toNat_testBit, Nat.pow_succ]
      ring
    rw [hvalue]
    exact (takes_evenDecision (n.testBit bits)).bind (ih _)

theorem takes_readNumber (bits n : Nat) : Takes (readNumber bits) (number bits n) (n % 2 ^ bits) := by
  have h := takes_numberFrom bits 0 n
  rwa [Nat.zero_mul, Nat.zero_add] at h

theorem takes_whenTaken {α : Type} (read : Deciding α) :
    Takes (whenTaken read) [.even false] none :=
  (takes_evenDecision false).bind (.pure none)

/-! ## The head -/

theorem takes_readOdds {kept tokens : List Nat} (h : kept.length = tokens.length) :
    Takes (readOdds kept tokens) (kept.map fun p => ⟨p, false⟩) tokens := by
  induction kept generalizing tokens with
  | nil =>
    obtain rfl := List.length_eq_zero_iff.1 h.symm
    exact .pure []
  | cons k kept ih =>
    cases tokens with
    | nil => exact absurd h (by simp)
    | cons t tokens =>
      have hrest := ih (Nat.succ.inj h)
      exact (takes_decision k false).bind ((Takes.pure t).bind hrest.bind_pure)

theorem takes_readSegments : Takes readSegments (number 1 0) (.zero false, none) :=
  (takes_evenDecision false).bind (.pure _)

theorem takes_readSmoothing :
    Takes readSmoothing (number 1 0 ++ (number 6 0 ++ (number 3 0 ++ number 1 0)))
      ⟨false, 0, 0, 0, 0⟩ := by
  have hshifts : Takes readLevelShifts (number 1 0) (0, 0) :=
    (takes_evenDecision false).bind (.pure _)
  exact (takes_evenDecision false).bind ((takes_readNumber 6 0).bind
    ((takes_readNumber 3 0).bind hshifts.bind_pure))

theorem takes_readShift : Takes readShift [.even false] 0 :=
  (takes_whenTaken (readSigned 4)).bind_pure

theorem takes_readSteps (n : Nat) :
    Takes readSteps (number 7 n ++ number 5 0) (n % 2 ^ 7, .zero) :=
  (takes_readNumber 7 n).bind (takes_readShift.bind (takes_readShift.bind
    (takes_readShift.bind (takes_readShift.bind takes_readShift.bind_pure))))

/-- The head that is written in front of every picture. -/
def plainHead : Head :=
  ⟨.zero false, ⟨false, 0, 0, 0, 0⟩, 1, stepsNumber, .zero, tokenTable, ⟨none, none⟩⟩

theorem takes_readHead : Takes readHead opening plainHead := by
  have htables : keepTable.toList.length = tokenTable.toList.length := by decide +kernel
  have hopening : opening = number 2 0 ++ (number 1 0 ++ ((number 1 0 ++ (number 6 0 ++
      (number 3 0 ++ number 1 0))) ++ (number 2 0 ++ ((number 7 stepsNumber ++ number 5 0) ++
        (number 1 0 ++ (keepTable.toList.map (fun p => ⟨p, false⟩) ++ number 1 0)))))) := by
    simp only [opening, List.append_assoc]
  rw [hopening]
  exact (takes_readNumber 2 0).bind (takes_readSegments.bind (takes_readSmoothing.bind
    ((takes_readNumber 2 0).bind ((takes_readSteps stepsNumber).bind
      ((takes_evenDecision false).bind ((takes_readOdds htables).bind
        (takes_whenTaken (readNumber 8)).bind_pure))))))

/-! ## Plans -/

/-- The plan of every square: its mean. -/
def plainPlan : Plan :=
  ⟨0, false, .whole .mean, .mean⟩

theorem takes_readPlan (above left : List Direction) :
    Takes (readPlan ⟨none, none⟩ above left) meanMode plainPlan := by
  have hwhole : Takes (wholeTree.read id) [⟨156, false⟩, ⟨163, false⟩] .mean :=
    (takes_decision 156 false).bind ((takes_decision 163 false).bind (.pure _))
  have hlight : Takes (readLightPlan above left) [⟨145, true⟩, ⟨156, false⟩, ⟨163, false⟩]
      (.whole .mean) :=
    (takes_decision 145 true).bind hwhole.bind_pure
  have hcolor : Takes (colorTree.read id) [⟨142, false⟩] .mean :=
    (takes_decision 142 false).bind (.pure _)
  exact (Takes.pure 0).bind ((Takes.pure false).bind (hlight.bind hcolor.bind_pure))

theorem takes_readPlans (above : List (List Direction)) (left : List Direction) :
    Takes (readPlans ⟨none, none⟩ above left) (List.replicate above.length meanMode).flatten
      (List.replicate above.length plainPlan) := by
  induction above generalizing left with
  | nil => exact .pure []
  | cons a above ih =>
    exact (takes_readPlan a left).bind (ih plainPlan.light.right).bind_pure

/-- All squares have the same plan. -/
theorem takes_readPlanRows (rows : Nat) (above : List (List Direction)) :
    Takes (readPlanRows ⟨none, none⟩ rows above)
      (List.replicate (above.length * rows) meanMode).flatten
      (List.replicate rows (List.replicate above.length plainPlan)) := by
  induction rows generalizing above with
  | zero => exact .pure []
  | succ rows ih =>
    have hrow := takes_readPlans above outside
    have hrest := ih ((List.replicate above.length plainPlan).map fun p => p.light.lower)
    rw [List.length_map, List.length_replicate] at hrest
    have hdecisions : (List.replicate (above.length * (rows + 1)) meanMode).flatten =
        (List.replicate above.length meanMode).flatten ++
          (List.replicate (above.length * rows) meanMode).flatten := by
      rw [← List.flatten_append, List.replicate_append_replicate, Nat.mul_succ, Nat.add_comm]
    rw [hdecisions]
    exact hrow.bind hrest.bind_pure

end Cutout.Webp.Lossy

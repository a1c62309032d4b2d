import TelemetrySender.Proofs.Fields
import TelemetrySender.Sender.Basic

/-!
Published metrics by name.  A name tells the kind and the count that is published under it, so each
count of each kind is found under its own name: a status only once it was counted, everything else from
the start.
-/

set_option autoImplicit false
set_option relaxedAutoImplicit false

namespace TelemetrySender

namespace Tally

open Text

private theorem toList_metricName (transport : String) (k : Kind) (what : String) :
    (metricName transport k what).toList =
      ("~sdk.rust.core.sender." ++ transport ++ ".").toList ++
        (k.segment.toList ++ '.' :: what.toList) := by
  have point : ".".toList = ['.'] := rfl
  unfold metricName
  rw [String.toList_append, String.toList_append, String.toList_append, point, List.append_assoc,
    List.append_assoc]
  rfl

theorem metricName_inj (transport : String) {j k : Kind} {v w : String}
    (same : metricName transport j v = metricName transport k w) : j = k ∧ v = w := by
  have chars := congrArg String.toList same
  rw [toList_metricName, toList_metricName] at chars
  have inside (i : Kind) : ∀ c ∈ i.segment.toList, (c != '.') = true := by
    rw [← List.all_eq_true]
    cases i <;> decide
  obtain ⟨segments, rests⟩ := append_inj_of_ends (List.append_cancel_left chars) (inside j)
    (inside k) (ends_cons (by decide) v.toList) (ends_cons (by decide) w.toList)
  have kinds : j.segment = k.segment := String.toList_injective segments
  refine ⟨?_, String.toList_injective (List.cons.inj rests).2⟩
  cases j <;> cases k <;> first | rfl | exact absurd kinds (by decide)

def statusName (status : Nat) : String := "report." ++ status.repr

private theorem toList_statusName (status : Nat) :
    (statusName status).toList = "report.".toList ++ Nat.toDigits 10 status := by
  simp [statusName, Nat.repr]

theorem statusName_inj {m n : Nat} (same : statusName m = statusName n) : m = n := by
  have chars := congrArg String.toList same
  rw [toList_statusName, toList_statusName] at chars
  exact Decimal.toDigits_inj (List.append_cancel_left chars)

/-- What is published of a kind whether or not anything was counted. -/
def standing (t : Tally) : List (String × Nat) :=
  [("valid", reading t.recorded.valid), ("invalid", reading t.recorded.invalid),
    ("dropped", reading t.recorded.dropped), ("report.errors", reading t.recorded.reportErrors),
    ("queue.size", t.queueSize), ("queue.remaining_capacity", t.remaining)]

/-- No status is counted under a name that stands for something else: it is a number that stands
behind the point. -/
theorem fst_ne_statusName (t : Tally) (status : Nat) : ∀ p ∈ t.standing, p.1 ≠ statusName status := by
  have others : ∀ name ∈ t.standing.map Prod.fst, (name.toList[7]?).any Char.isDigit = false := by
    change ∀ name ∈ ["valid", "invalid", "dropped", "report.errors", "queue.size",
      "queue.remaining_capacity"], _
    decide
  intro p member same
  have none := others p.1 (List.mem_map_of_mem member)
  rw [same, toList_statusName, List.getElem?_append_right (by decide)] at none
  cases digits : Nat.toDigits 10 status with
  | nil => exact absurd digits Nat.toDigits_ne_nil
  | cons c rest =>
    have digit : c.isDigit = true :=
      Nat.isDigit_of_mem_toDigits (b := 10) (n := status) (by decide) (by decide) (by simp [digits])
    rw [digits] at none
    exact absurd digit (by simpa using none)

theorem published_eq (t : Tally) (transport : String) (k : Kind) :
    t.published transport k =
      (t.standing ++ t.statuses.map fun e => (statusName e.1, reading e.2)).map fun p =>
        (metricName transport k p.1, p.2) := by
  rw [List.map_append, List.map_map]
  rfl

theorem find?_published_of_ne {j k : Kind} (other : j ≠ k) (t : Tally) (transport what : String) :
    Keyed.find? (metricName transport k what) (t.published transport j) = none := by
  refine Keyed.find?_eq_none_iff.mpr fun p member same => other ?_
  rw [published_eq] at member
  obtain ⟨q, -, rfl⟩ := List.mem_map.mp member
  exact (metricName_inj transport same).1

end Tally

namespace Sender

variable {σ : Type} (s : Sender σ) (k : Kind)

/-- What is published of a kind under a name, if anything. -/
def metric? (what : String) : Option Nat :=
  Keyed.find? (Tally.metricName s.transport.name k what) s.published

private theorem metric?_eq (what : String) :
    s.metric? k what = Keyed.find? what ((s.buffer k).tally.standing ++
      (s.buffer k).tally.statuses.map fun e => (Tally.statusName e.1, Tally.reading e.2)) := by
  have own : s.metric? k what = Keyed.find? (Tally.metricName s.transport.name k what)
      ((s.buffer k).tally.published s.transport.name k) := by
    have none {j : Kind} (other : j ≠ k) := Tally.find?_published_of_ne other (s.buffer j).tally
      s.transport.name what
    unfold metric? published
    simp only [Kind.all, List.flatMap_cons, List.flatMap_nil, Keyed.find?_append]
    cases k <;> simp [none, Keyed.find?]
  rw [own, Tally.published_eq]
  have found := Keyed.find?_map (Tally.metricName s.transport.name k)
    (fun _ _ same => (Tally.metricName_inj _ same).2) (fun value : Nat => value) what
    ((s.buffer k).tally.standing ++
      (s.buffer k).tally.statuses.map fun e => (Tally.statusName e.1, Tally.reading e.2))
  rw [found, Option.map_id']

theorem metric?_of_standing {what : String} {value : Nat}
    (stands : Keyed.find? what (s.buffer k).tally.standing = some value) :
    s.metric? k what = some value := by
  rw [metric?_eq, Keyed.find?_append, stands]
  rfl

theorem metric?_statusName (status : Nat) :
    s.metric? k (Tally.statusName status) =
      (Keyed.find? status (s.buffer k).tally.statuses).map Tally.reading := by
  have other : Keyed.find? (Tally.statusName status) (s.buffer k).tally.standing = none :=
    Keyed.find?_eq_none_iff.mpr ((s.buffer k).tally.fst_ne_statusName status)
  rw [metric?_eq, Keyed.find?_append, other, Option.none_or]
  exact Keyed.find?_map Tally.statusName (fun _ _ => Tally.statusName_inj) Tally.reading status _

end Sender

end TelemetrySender

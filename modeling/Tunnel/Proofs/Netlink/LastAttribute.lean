import Mathlib.Logic.Basic
import Tunnel.Netlink.Payload

/-!
# The attribute that counts

Of the attributes of a payload that have one type the last counts, also if its
value cannot be read (`LastSays`).  What is read of a payload is said here by
the place of that attribute, without the order in which a row is searched
(`lastSays_iff`).
-/

namespace Tunnel.Netlink

/-- The last of some attributes of a kind: none of those after it is. -/
def IsLast (isOfKind : Attribute → Prop) (attributes : List Attribute)
    (last : Attribute) : Prop :=
  ∃ before after, attributes = before ++ last :: after ∧ isOfKind last ∧
    ∀ later ∈ after, ¬ isOfKind later

/--
What the last attribute of a type says: its value if that can be read, and
else nothing, also if an earlier one can be read.
-/
inductive LastSays {α : Type} (type : UInt16) (read : List UInt8 → Option α)
    (attributes : List Attribute) : Option α → Prop
  | value {last : Attribute} {value : α}
      (isLast : IsLast (·.type = type) attributes last)
      (reads : read last.value = some value) :
      LastSays type read attributes (some value)
  | nothing
      (unreadable : ∀ last, IsLast (·.type = type) attributes last →
        read last.value = none) :
      LastSays type read attributes none

section Last

variable {α : Type} {type : UInt16} {attributes : List Attribute}
  {read : List UInt8 → Option α} {said : Option α}
  {isOfKind : Attribute → Prop} {last : Attribute}

/-- The last of a row is the first of the row backwards. -/
theorem isLast_iff_reverse :
    IsLast isOfKind attributes last ↔
      ∃ after before, attributes.reverse = after ++ last :: before ∧
        isOfKind last ∧ ∀ later ∈ after, ¬ isOfKind later := by
  constructor
  · rintro ⟨before, after, rfl, own, others⟩
    refine ⟨after.reverse, before.reverse, by simp, own, ?_⟩
    exact fun later member => others later (List.mem_reverse.1 member)
  · rintro ⟨after, before, row, own, others⟩
    refine ⟨before.reverse, after.reverse, ?_, own, ?_⟩
    · rw [← attributes.reverse_reverse, row]
      simp
    · exact fun later member => others later (List.mem_reverse.1 member)

theorem find?_reverse_eq_some_iff :
    attributes.reverse.find? (·.type = type) = some last ↔
      IsLast (·.type = type) attributes last := by
  rw [List.find?_eq_some_iff_append, isLast_iff_reverse]
  constructor
  · rintro ⟨own, after, before, row, others⟩
    exact ⟨after, before, row, of_decide_eq_true own, by simpa using others⟩
  · rintro ⟨after, before, row, own, others⟩
    exact ⟨decide_eq_true own, after, before, row, by simpa using others⟩

theorem lastSays_iff :
    LastSays type read attributes said ↔
      lastValue type read attributes = said := by
  unfold lastValue
  constructor
  · rintro (⟨isLast, reads⟩ | unreadable)
    · rw [find?_reverse_eq_some_iff.2 isLast]
      exact reads
    · rw [Option.bind_eq_none_iff]
      exact fun last found =>
        unreadable last (find?_reverse_eq_some_iff.1 found)
  · rintro rfl
    cases found : attributes.reverse.find? (·.type = type) with
    | none =>
        refine .nothing fun last isLast => ?_
        rw [find?_reverse_eq_some_iff.2 isLast] at found
        cases found
    | some last =>
        have isLast := find?_reverse_eq_some_iff.1 found
        rw [Option.bind_some]
        cases reads : read last.value with
        | none =>
            refine .nothing fun other isOther => ?_
            have same := found.symm.trans
              (find?_reverse_eq_some_iff.2 isOther)
            rw [← Option.some.inj same, reads]
        | some value => exact .value isLast reads

/-- The last value that can be read at all. -/
theorem getLast?_filterMap_eq_some_iff {reads : Attribute → Option α}
    {value : α} :
    (attributes.filterMap reads).getLast? = some value ↔
      ∃ last, IsLast (fun entry => reads entry ≠ none) attributes last ∧
        reads last = some value := by
  rw [List.getLast?_filterMap, List.findSome?_eq_some_iff]
  simp only [isLast_iff_reverse]
  constructor
  · rintro ⟨after, last, before, row, found, others⟩
    refine ⟨last, ⟨after, before, row, ?_, ?_⟩, found⟩
    · rw [found]
      exact Option.some_ne_none value
    · exact fun later member => not_not_intro (others later member)
  · rintro ⟨last, ⟨after, before, row, -, others⟩, found⟩
    exact ⟨after, last, before, row, found, fun later member =>
      not_not.1 (others later member)⟩

end Last

end Tunnel.Netlink

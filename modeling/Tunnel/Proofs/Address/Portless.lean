import Mathlib.Data.List.Induction
import Tunnel.Proofs.Address.Text

/-!
# Endpoints without brackets

The text of an endpoint that does not begin with a bracket is cut at its last
colon, and a colon is also what stands between the groups of an IPv6 address.
So there are addresses whose text is cut into a shorter address and a port.
They are those that leave out a run of groups and have more than one group
after it, the last in decimal digits (`exists_ofText?_of_looksPorted`); the
text of any other address is no endpoint (`looksPorted_of_ofText?`).
-/

namespace Tunnel

/-! ## The last separator -/

namespace Text

variable {separator : Char} {before after : List Char}

/-- A text is cut at its last separator in one way. -/
theorem last_unique {front back : List Char}
    (same : before ++ separator :: after = front ++ separator :: back)
    (absent : separator ∉ after) (none : separator ∉ back) :
    before = front ∧ after = back := by
  have cut := splitLast?_append absent before
  rw [same, splitLast?_append none] at cut
  cases cut
  exact ⟨rfl, rfl⟩

theorem exists_last {text : List Char} (member : separator ∈ text) :
    ∃ before after, text = before ++ separator :: after ∧
      separator ∉ after := by
  obtain ⟨after, before, whole, absent⟩ :=
    List.eq_append_cons_of_mem (List.mem_reverse.2 member)
  refine ⟨before.reverse, after.reverse, ?_, by simpa using absent⟩
  simpa using congrArg List.reverse whole

end Text

/-! ## Decimal digits -/

namespace Numeral

/-- The digits of base ten. -/
theorem isSome_digitValue?_ten {character : Char} :
    (digitValue? 10 character).isSome = character.isDigit := by
  have low : '0'.val ≤ character.val ↔ 48 ≤ character.toNat :=
    UInt32.le_iff_toNat_le
  have high : character.val ≤ '9'.val ↔ character.toNat ≤ 57 :=
    UInt32.le_iff_toNat_le
  rw [Bool.eq_iff_iff, Char.isDigit, Bool.and_eq_true, decide_eq_true_eq,
    decide_eq_true_eq, ge_iff_le, low, high]
  unfold digitValue? Hex.digitValue?
  grind

/-- What spells a number in base ten has decimal digits only. -/
theorem isDigit_of_value?_ten {digits : List Char} {total : Nat}
    (read : value? 10 digits = some total) :
    ∀ character ∈ digits, character.isDigit := by
  induction digits using List.reverseRecOn generalizing total with
  | nil => nofun
  | append_singleton front last ih =>
      rw [value?_append] at read
      obtain ⟨high, readFront, read⟩ := Option.bind_eq_some_iff.1 read
      obtain ⟨low, readLast, -⟩ := Option.map_eq_some_iff.1 read
      refine List.forall_mem_append.2
        ⟨ih readFront, List.forall_mem_singleton.2 ?_⟩
      rw [← isSome_digitValue?_ten, readLast]
      rfl

/-- Decimal digits spell a number that has no more of them. -/
theorem exists_value?_ten {digits : List Char}
    (decimal : ∀ character ∈ digits, character.isDigit) :
    ∃ total, value? 10 digits = some total ∧ total < 10 ^ digits.length := by
  induction digits using List.reverseRecOn with
  | nil => exact ⟨0, rfl, Nat.one_pos⟩
  | append_singleton front last ih =>
      rw [List.forall_mem_append, List.forall_mem_singleton] at decimal
      obtain ⟨high, readFront, bound⟩ := ih decimal.1
      obtain ⟨low, readLast⟩ := Option.isSome_iff_exists.1
        (isSome_digitValue?_ten.trans decimal.2)
      have small : low < 10 := by
        have kept := (Option.filter_eq_some_iff.1 readLast).2
        exact of_decide_eq_true kept
      refine ⟨10 * high + low, ?_, ?_⟩
      · rw [value?_append, readFront, Option.bind_some, readLast]
        rfl
      · rw [List.length_append, List.length_singleton, Nat.pow_succ]
        omega

/-- A text without a sign is read as digits. -/
theorem natural?_of_not_mem {text : List Char} (unsigned : '+' ∉ text) :
    natural? text = if text = [] then none else value? 10 text := by
  cases text with
  | nil => rfl
  | cons first rest =>
      have other : first ≠ '+' := by
        rintro rfl
        exact unsigned List.mem_cons_self
      simp [natural?, other]

/-- Up to four decimal digits are a port. -/
theorem exists_word16? {digits : List Char} (some : digits ≠ [])
    (short : digits.length ≤ 4)
    (decimal : ∀ character ∈ digits, character.isDigit) :
    ∃ word, word16? digits = Option.some word := by
  obtain ⟨total, read, bound⟩ := exists_value?_ten decimal
  have unsigned : '+' ∉ digits :=
    fun sign => absurd (decimal '+' sign) (by decide)
  have within : total ≤ 65535 := by
    have room : 10 ^ digits.length ≤ 10 ^ 4 :=
      Nat.pow_le_pow_right (by decide) short
    omega
  refine ⟨UInt16.ofNat total, ?_⟩
  rw [word16?, bounded?, natural?_of_not_mem unsigned, if_neg some, read,
    Option.filter_some, if_pos]
  · rfl
  · exact decide_eq_true within

/-- A port without a sign is decimal digits. -/
theorem isDigit_of_word16? {text : List Char} {word : UInt16}
    (read : word16? text = some word) (unsigned : '+' ∉ text) :
    text ≠ [] ∧ ∀ character ∈ text, character.isDigit := by
  obtain ⟨total, bounded, -⟩ := Option.map_eq_some_iff.1 read
  have natural := (Option.filter_eq_some_iff.1 bounded).1
  rw [natural?_of_not_mem unsigned] at natural
  obtain ⟨some, value⟩ := Option.ite_none_left_eq_some.1 natural
  exact ⟨some, isDigit_of_value?_ten value⟩

end Numeral

namespace Ipv6

/-! ## The omitted run -/

/-- The first omitted run of a text is that of any longer one. -/
theorem splitGap?_append {text before after : List Char}
    (cut : splitGap? text = some (before, after)) (rest : List Char) :
    splitGap? (text ++ rest) = some (before, after ++ rest) := by
  fun_induction splitGap? text generalizing before with
  | case1 after =>
      cases cut
      rfl
  | case2 character more single ih =>
      obtain ⟨⟨front, back⟩, inner, equal⟩ := Option.map_eq_some_iff.1 cut
      cases equal
      have longer := ih inner
      rw [List.cons_append, splitGap?_cons, longer]
      · rfl
      · intro tail equal
        obtain ⟨colon, follows⟩ := List.cons.inj equal
        cases more with
        | nil => cases inner
        | cons next others =>
            obtain ⟨rfl, -⟩ := List.cons.inj follows
            exact single others colon rfl
  | case3 => cases cut

/-- Where something is left out, the first such place is no later. -/
theorem splitGap?_gap (before middle : List Char) :
    ∃ front back,
      splitGap? (before ++ ':' :: ':' :: middle) = some (front, back) ∧
        middle.length ≤ back.length := by
  induction before with
  | nil => exact ⟨[], middle, rfl, Nat.le_refl _⟩
  | cons character rest ih =>
      obtain ⟨front, back, cut, bound⟩ := ih
      by_cases earlier : ∃ more, character :: (rest ++ ':' :: ':' :: middle) =
          ':' :: ':' :: more
      · obtain ⟨more, same⟩ := earlier
        refine ⟨[], more, ?_, ?_⟩
        · rw [List.cons_append, same]
          rfl
        · have lengths := congrArg List.length same
          simp at lengths
          omega
      · refine ⟨character :: front, back, ?_, bound⟩
        rw [List.cons_append,
          splitGap?_cons fun more same => earlier ⟨more, same⟩, cut]
        rfl

/-- Up to its first colon an omitted run is none. -/
theorem splitGap?_front {text before after : List Char}
    (cut : splitGap? text = some (before, after)) :
    splitGap? (before ++ [':']) = none := by
  fun_induction splitGap? text generalizing before with
  | case1 after =>
      cases cut
      rfl
  | case2 character more single ih =>
      obtain ⟨⟨front, back⟩, inner, equal⟩ := Option.map_eq_some_iff.1 cut
      cases equal
      rw [List.cons_append, splitGap?_cons, ih inner]
      · rfl
      · intro tail equal
        obtain ⟨colon, follows⟩ := List.cons.inj equal
        have whole := splitGap?_eq_some inner
        cases front with
        | nil => exact single _ colon whole
        | cons next others =>
            obtain ⟨rfl, -⟩ := List.cons.inj follows
            exact single _ colon whole
  | case3 => cases cut

/-! ## Lists of groups -/

theorem length_of_group? {text : List Char} {group : Nat}
    (read : group? text = some group) : text.length ≤ 4 := by
  obtain ⟨_, short, -⟩ := Option.bind_eq_some_iff.1 read
  exact ((Option.guard_eq_some' _).1 short).2

theorem mixed?_of_group? {text : List Char} {group : Nat}
    (read : group? text = some group) : mixed? text = none := by
  refine mixed?_of_not_mem fun dot => ?_
  exact absurd (mem_of_group? read dot) (by decide)

/-- All but the last of some groups are groups of digits. -/
theorem groupList?_concat (items : List (List Char)) (last : List Char) :
    groupList? (items ++ [last]) =
      (items.mapM group?).bind fun front =>
        ((mixed? last).or ((group? last).map ([·]))).map (front ++ ·) := by
  induction items with
  | nil => simp [groupList?]
  | cons first rest ih =>
      rw [List.cons_append, groupList?, ih, List.mapM_cons]
      · cases group? first <;> cases rest.mapM group? <;>
          cases (mixed? last).or ((group? last).map ([·])) <;> simp
      · simp

/-- Groups of digits are groups of an address. -/
theorem groupList?_of_mapM {items : List (List Char)} {all : List Nat}
    (read : items.mapM group? = some all) : groupList? items = some all := by
  induction items using List.reverseRecOn with
  | nil =>
      cases read
      rfl
  | append_singleton front last ih =>
      rw [List.mapM_append] at read
      obtain ⟨groups, frontRead, read⟩ := Option.bind_eq_some_iff.1 read
      obtain ⟨one, lastRead, same⟩ := Option.bind_eq_some_iff.1 read
      rw [List.mapM_cons, List.mapM_nil] at lastRead
      obtain ⟨group, digits, single⟩ := Option.bind_eq_some_iff.1 lastRead
      cases single
      cases same
      rw [groupList?_concat, frontRead, mixed?_of_group? digits, digits]
      rfl

/-- Where the last of some groups has no dots, all are groups of digits. -/
theorem groupList?_concat_eq_some {items : List (List Char)}
    {last : List Char} {all : List Nat} (plain : '.' ∉ last)
    (read : groupList? (items ++ [last]) = some all) :
    ∃ front group, items.mapM group? = some front ∧
      group? last = some group ∧ all = front ++ [group] := by
  rw [groupList?_concat, mixed?_of_not_mem plain, Option.none_or] at read
  obtain ⟨front, frontRead, read⟩ := Option.bind_eq_some_iff.1 read
  obtain ⟨one, single, rfl⟩ := Option.map_eq_some_iff.1 read
  obtain ⟨group, lastRead, rfl⟩ := Option.map_eq_some_iff.1 single
  exact ⟨front, group, frontRead, lastRead, rfl⟩

/-! ## Whole addresses -/

/-- Without an omitted run there are eight groups. -/
theorem parseGroups?_eq_some_iff_of_none {text : List Char} {all : List Nat}
    (whole : splitGap? text = none) :
    parseGroups? text = some all ↔
      groupList? (Text.split ':' text) = some all ∧ all.length = 8 := by
  simp only [parseGroups?, whole, Option.bind_eq_bind, Option.pure_def,
    Option.bind_eq_some_iff, Option.guard_eq_some', Option.some.injEq]
  constructor
  · rintro ⟨list, read, -, eight, rfl⟩
    exact ⟨read, eight⟩
  · rintro ⟨read, eight⟩
    exact ⟨all, read, (), eight, rfl⟩

/-- An omitted run stands for at least one group. -/
theorem parseGroups?_eq_some_iff_of_gap {text before after : List Char}
    {all : List Nat} (gap : splitGap? text = some (before, after)) :
    parseGroups? text = some all ↔
      ∃ front back, front? before = some front ∧ side? after = some back ∧
        front.length + back.length ≤ 7 ∧
        all = front ++
          List.replicate (8 - front.length - back.length) 0 ++ back := by
  simp only [parseGroups?, gap, Option.bind_eq_bind, Option.pure_def,
    Option.bind_eq_some_iff, Option.guard_eq_some', Option.some.injEq]
  constructor
  · rintro ⟨front, frontRead, back, backRead, -, room, rfl⟩
    exact ⟨front, back, frontRead, backRead, room, rfl⟩
  · rintro ⟨front, back, frontRead, backRead, room, rfl⟩
    exact ⟨front, frontRead, back, backRead, (), room, rfl⟩

theorem length_of_parseGroups? {text : List Char} {all : List Nat}
    (read : parseGroups? text = some all) : all.length = 8 := by
  cases gap : splitGap? text with
  | none => exact ((parseGroups?_eq_some_iff_of_none gap).1 read).2
  | some cut =>
      obtain ⟨front, back, -, -, room, rfl⟩ :=
        (parseGroups?_eq_some_iff_of_gap gap).1 read
      simp only [List.length_append, List.length_replicate]
      omega

theorem length_of_parse? {text : List Char} {list : List UInt8}
    (read : parse? text = some list) : list.length = 16 := by
  obtain ⟨all, groups, rfl⟩ := Option.map_eq_some_iff.1 read
  simp [octets, length_of_parseGroups? groups]

/--
A text that leaves out groups and ends in a further group is an address only
if it is one without that group.
-/
theorem exists_parse?_of_gap {host port front middle : List Char}
    {list : List UInt8} (gap : splitGap? host = some (front, middle))
    (follows : middle ≠ []) (single : ':' ∉ port) (plain : '.' ∉ port)
    (read : parse? (host ++ ':' :: port) = some list) :
    (∃ shorter, parse? host = some shorter) ∧
      ∃ group, group? port = some group := by
  obtain ⟨all, read, -⟩ := Option.map_eq_some_iff.1 read
  obtain ⟨before, after, frontRead, backRead, room, -⟩ :=
    (parseGroups?_eq_some_iff_of_gap (splitGap?_append gap _)).1 read
  rw [side?, if_neg (by simp), Text.split_append,
    Text.split_of_not_mem single] at backRead
  obtain ⟨groups, group, middleRead, portRead, rfl⟩ :=
    groupList?_concat_eq_some plain backRead
  rw [List.length_append, List.length_singleton] at room
  have shorter := (parseGroups?_eq_some_iff_of_gap gap).2
    ⟨before, groups, frontRead,
      by rw [side?, if_neg follows, groupList?_of_mapM middleRead],
      by omega, rfl⟩
  exact ⟨⟨_, Option.map_eq_some_iff.2 ⟨_, shorter, rfl⟩⟩, group, portRead⟩

/-- An address does not end in a single colon. -/
theorem parse?_concat_colon {text : List Char}
    (whole : splitGap? (text ++ [':']) = none) :
    parse? (text ++ [':']) = none := by
  rw [Option.eq_none_iff_forall_ne_some]
  intro list read
  obtain ⟨all, read, -⟩ := Option.map_eq_some_iff.1 read
  have groups := ((parseGroups?_eq_some_iff_of_none whole).1 read).1
  rw [Text.split_append, Text.split_nil] at groups
  obtain ⟨front, group, -, empty, -⟩ :=
    groupList?_concat_eq_some List.not_mem_nil groups
  cases empty

/-- Without an omitted run no address is one group longer than another. -/
theorem splitGap?_ne_none {host port : List Char} {list : List UInt8}
    (single : ':' ∉ port) (plain : '.' ∉ port)
    (read : parse? (host ++ ':' :: port) = some list)
    (readHost : (∃ four, Ipv4.parse? host = some four) ∨
      ∃ six, parse? host = some six) :
    splitGap? (host ++ ':' :: port) ≠ none := by
  intro whole
  obtain ⟨all, read, -⟩ := Option.map_eq_some_iff.1 read
  obtain ⟨groups, eight⟩ := (parseGroups?_eq_some_iff_of_none whole).1 read
  rw [Text.split_append, Text.split_of_not_mem single] at groups
  obtain ⟨front, group, hostRead, -, rfl⟩ :=
    groupList?_concat_eq_some plain groups
  rw [List.length_append, List.length_singleton] at eight
  rcases readHost with ⟨four, parsed⟩ | ⟨six, parsed⟩
  · have colonless : ':' ∉ host :=
      fun colon => absurd (Ipv4.mem_of_parse? parsed colon) (by decide)
    have lengths := (mapM_eq_some_iff.1 hostRead).length_eq
    rw [Text.split_of_not_mem colonless, List.length_singleton] at lengths
    omega
  · obtain ⟨shorter, parsed, -⟩ := Option.map_eq_some_iff.1 parsed
    cases gap : splitGap? host with
    | none =>
        have same := ((parseGroups?_eq_some_iff_of_none gap).1 parsed).1
        rw [groupList?_of_mapM hostRead] at same
        cases same
        have full := length_of_parseGroups? parsed
        omega
    | some cut =>
        rw [splitGap?_append gap] at whole
        cases whole

/--
An address that ends in a group after a shorter address leaves out groups
before that one, and has a further group in between.
-/
theorem exists_gap_of_parse? {host port : List Char} {list : List UInt8}
    (single : ':' ∉ port) (plain : '.' ∉ port)
    (read : parse? (host ++ ':' :: port) = some list)
    (readHost : (∃ four, Ipv4.parse? host = some four) ∨
      ∃ six, parse? host = some six) :
    ∃ front middle, host = front ++ ':' :: ':' :: middle ∧ middle ≠ [] := by
  obtain ⟨⟨front, back⟩, gap⟩ := Option.ne_none_iff_exists'.1
    (splitGap?_ne_none single plain read readHost)
  have whole := splitGap?_eq_some gap
  by_cases more : ':' ∈ back
  · obtain ⟨middle, last, rfl, absent⟩ := Text.exists_last more
    have cut : host ++ ':' :: port =
        (front ++ ':' :: ':' :: middle) ++ ':' :: last := by
      simpa using whole
    obtain ⟨rfl, rfl⟩ := Text.last_unique cut single absent
    refine ⟨front, middle, rfl, ?_⟩
    rintro rfl
    obtain ⟨all, read, -⟩ := Option.map_eq_some_iff.1 read
    obtain ⟨_, _, -, backRead, -⟩ :=
      (parseGroups?_eq_some_iff_of_gap gap).1 read
    rw [side?, if_neg (by simp), Text.split_append,
      Text.split_of_not_mem single, Text.split_nil] at backRead
    obtain ⟨_, _, empty, -⟩ := groupList?_concat_eq_some plain backRead
    cases empty
  · have cut : host ++ ':' :: port = (front ++ [':']) ++ ':' :: back := by
      simpa using whole
    obtain ⟨rfl, rfl⟩ := Text.last_unique cut single more
    rcases readHost with ⟨four, parsed⟩ | ⟨six, parsed⟩
    · have colon : ':' ∈ front ++ [':'] := by simp
      exact absurd (Ipv4.mem_of_parse? parsed colon) (by decide)
    · rw [parse?_concat_colon (splitGap?_front gap)] at parsed
      cases parsed

end Ipv6

/-! ## Texts of addresses as texts of endpoints -/

namespace IpAddress

/--
A text that leaves out a run of groups, goes on after it, and has nothing but
decimal digits after its last colon.
-/
def LooksPorted (text : List Char) : Prop :=
  ∃ before middle digits,
    text = before ++ ':' :: ':' :: (middle ++ ':' :: digits) ∧
      middle ≠ [] ∧ digits ≠ [] ∧ ∀ character ∈ digits, character.isDigit

/-- A text spells an address of one family or of the other. -/
theorem exists_parse?_of_ofText? {text : List Char} {address : IpAddress}
    (read : ofText? text = some address) :
    (∃ four, Ipv4.parse? text = some four) ∨
      ∃ six, Ipv6.parse? text = some six := by
  rcases Option.or_eq_some_iff.1 read with four | ⟨-, six⟩
  · obtain ⟨octets, found, -⟩ := Option.map_eq_some_iff.1 four
    obtain ⟨list, parsed, -⟩ := Option.bind_eq_some_iff.1 found
    exact Or.inl ⟨list, parsed⟩
  · obtain ⟨octets, found, -⟩ := Option.map_eq_some_iff.1 six
    obtain ⟨list, parsed, -⟩ := Option.bind_eq_some_iff.1 found
    exact Or.inr ⟨list, parsed⟩

/-- The text of an IPv6 address is not that of an IPv4 address. -/
theorem exists_ofText?_of_parse? {text : List Char} {six : List UInt8}
    (read : Ipv6.parse? text = some six) :
    ∃ octets, ofText? text = some (.ipv6 octets) := by
  have noFour : Ipv4.parse? text = none := by
    rw [Option.eq_none_iff_forall_ne_some]
    intro four parsed
    have colonless : ':' ∉ text :=
      fun colon => absurd (Ipv4.mem_of_parse? parsed colon) (by decide)
    rw [Ipv6.parse?_of_not_mem colonless] at read
    cases read
  let octets : Octets 16 := ⟨six, Ipv6.length_of_parse? read⟩
  have whole : Octets.ofList? 16 six = some octets :=
    Octets.ofList?_eq_some_iff.2 rfl
  exact ⟨octets, by simp [ofText?, noFour, read, whole]⟩

end IpAddress

namespace Endpoint

theorem ofText?_eq_some_iff {text : List Char} {endpoint : Endpoint} :
    ofText? text = some endpoint ↔
      ∃ host port address word, hostAndPort? text = some (host, port) ∧
        IpAddress.ofText? host = some address ∧
        Numeral.word16? port = some word ∧
        endpoint = ofAddress address word := by
  simp only [ofText?, Option.bind_eq_bind, Option.pure_def,
    Option.bind_eq_some_iff, Option.some.injEq, Prod.exists]
  constructor
  · rintro ⟨host, port, cut, address, read, word, spelled, rfl⟩
    exact ⟨host, port, address, word, cut, read, spelled, rfl⟩
  · rintro ⟨host, port, address, word, cut, read, spelled, rfl⟩
    exact ⟨host, port, cut, address, read, word, spelled, rfl⟩

/-- The host stands in brackets, or the port is what follows the last colon. -/
theorem shape_of_hostAndPort? {text host port : List Char}
    (cut : hostAndPort? text = some (host, port)) :
    text = '[' :: (host ++ ']' :: ':' :: port) ∨
      text = host ++ ':' :: port ∧ ':' ∉ port := by
  unfold hostAndPort? at cut
  split at cut
  · next rest =>
      split at cut
      · next first inner =>
          cases cut
          exact Or.inl (congrArg _ (Text.splitOnce?_eq_some inner).1)
      · cases cut
  · exact Or.inr (Text.splitLast?_eq_some cut)

/-- The text of an address has no brackets, so only its last colon counts. -/
theorem hostAndPort?_of_ofText? {text : List Char} {address : IpAddress}
    (spelled : IpAddress.ofText? text = some address) :
    hostAndPort? text = Text.splitLast? ':' text :=
  hostAndPort?_of_not_mem fun bracket =>
    absurd (IpAddress.isCharacter_of_ofText? spelled bracket) (by decide)

/-- A port that is part of the text of an address is decimal digits. -/
theorem isDigit_of_port {text host port : List Char} {address : IpAddress}
    {word : UInt16} (spelled : IpAddress.ofText? text = some address)
    (cut : text = host ++ ':' :: port)
    (read : Numeral.word16? port = some word) :
    port ≠ [] ∧ ∀ character ∈ port, character.isDigit := by
  refine Numeral.isDigit_of_word16? read fun sign => ?_
  have member : '+' ∈ text := by simp [cut, sign]
  exact absurd (IpAddress.isCharacter_of_ofText? spelled member) (by decide)

/-- What can be taken for an endpoint is the text of an IPv6 address. -/
theorem looksPorted_of_ofText? {text : List Char} {address : IpAddress}
    {endpoint : Endpoint} (spelled : IpAddress.ofText? text = some address)
    (read : ofText? text = some endpoint) : IpAddress.LooksPorted text := by
  obtain ⟨host, port, shorter, word, cut, hostRead, portRead, -⟩ :=
    ofText?_eq_some_iff.1 read
  rw [hostAndPort?_of_ofText? spelled] at cut
  obtain ⟨rfl, single⟩ := Text.splitLast?_eq_some cut
  obtain ⟨some, digits⟩ := isDigit_of_port spelled rfl portRead
  have plain : '.' ∉ port := fun dot => absurd (digits '.' dot) (by decide)
  rcases IpAddress.exists_parse?_of_ofText? spelled with
    ⟨four, parsed⟩ | ⟨six, parsed⟩
  · have colon : ':' ∈ host ++ ':' :: port := by simp
    exact absurd (Ipv4.mem_of_parse? parsed colon) (by decide)
  · obtain ⟨front, middle, rfl, follows⟩ :=
      Ipv6.exists_gap_of_parse? single plain parsed
        (IpAddress.exists_parse?_of_ofText? hostRead)
    exact ⟨front, middle, port, by simp, follows, some, digits⟩

/-- Such a text is taken for a shorter address and a port. -/
theorem exists_ofText?_of_looksPorted {text : List Char}
    {address : IpAddress} (spelled : IpAddress.ofText? text = some address)
    (looks : IpAddress.LooksPorted text) :
    ∃ host port octets word, text = host ++ ':' :: port ∧ ':' ∉ port ∧
      IpAddress.ofText? host = some (.ipv6 octets) ∧
      Numeral.word16? port = some word ∧
      ofText? text = some (.ipv6 octets word 0 0) := by
  obtain ⟨before, middle, digits, rfl, follows, some, decimal⟩ := looks
  have single : ':' ∉ digits :=
    fun colon => absurd (decimal ':' colon) (by decide)
  have plain : '.' ∉ digits := fun dot => absurd (decimal '.' dot) (by decide)
  have whole : before ++ ':' :: ':' :: (middle ++ ':' :: digits) =
      (before ++ ':' :: ':' :: middle) ++ ':' :: digits := by
    simp
  have cut := Text.splitLast?_append single (before ++ ':' :: ':' :: middle)
  rw [← whole, ← hostAndPort?_of_ofText? spelled] at cut
  obtain ⟨front, back, gap, bound⟩ := Ipv6.splitGap?_gap before middle
  have rest : back ≠ [] := by
    rintro rfl
    exact follows (List.length_eq_zero_iff.1 (Nat.le_zero.1 bound))
  rcases IpAddress.exists_parse?_of_ofText? spelled with
    ⟨four, parsed⟩ | ⟨six, parsed⟩
  · have colon : ':' ∈ before ++ ':' :: ':' :: (middle ++ ':' :: digits) := by
      simp
    exact absurd (Ipv4.mem_of_parse? parsed colon) (by decide)
  · rw [whole] at parsed
    obtain ⟨⟨shorter, hostRead⟩, group, portRead⟩ :=
      Ipv6.exists_parse?_of_gap gap rest single plain parsed
    obtain ⟨octets, hostRead⟩ := IpAddress.exists_ofText?_of_parse? hostRead
    obtain ⟨word, portRead⟩ := Numeral.exists_word16? some
      (Ipv6.length_of_group? portRead) decimal
    exact ⟨_, _, octets, word, whole, single, hostRead, portRead,
      ofText?_eq_some_iff.2 ⟨_, _, _, _, cut, hostRead, portRead, rfl⟩⟩

end Endpoint

end Tunnel

import Tunnel.Address.Ipv6
import Tunnel.Proofs.Address.Ipv4

/-!
# IPv6 text reads back

Eight groups are read as they were written, whether a run of zeros was left out
or the last two groups stand as an IPv4 address.  What is read as an IPv6
address has digits, colons and dots only.
-/

namespace Tunnel.Ipv6

/-! ## Groups -/

theorem length_groups (octets : List UInt8) :
    (groups octets).length = octets.length / 2 := by
  fun_induction groups octets with
  | case1 high low rest ih =>
      simp only [List.length_cons, ih]
      omega
  | case2 short =>
      rcases short with _ | ⟨first, _ | ⟨second, rest⟩⟩
      · rfl
      · simp
      · simp_all

theorem groups_lt {octets : List UInt8} {group : Nat}
    (member : group ∈ groups octets) : group < 65536 := by
  fun_induction groups octets with
  | case1 high low rest ih =>
      rcases List.mem_cons.1 member with rfl | inRest
      · have highSmall := high.toNat_lt
        have lowSmall := low.toNat_lt
        omega
      · exact ih inRest
  | case2 short => cases member

theorem bigEndian_group (high low : UInt8) :
    bigEndian 2 (256 * high.toNat + low.toNat) = [high, low] := by
  have highSmall := high.toNat_lt
  have lowSmall := low.toNat_lt
  have lowOctet : UInt8.ofNat (256 * high.toNat + low.toNat) = low := by
    apply UInt8.toNat_inj.1
    rw [UInt8.toNat_ofNat']
    omega
  have highOctet :
      UInt8.ofNat ((256 * high.toNat + low.toNat) / 256) = high := by
    apply UInt8.toNat_inj.1
    rw [UInt8.toNat_ofNat']
    omega
  simp [bigEndian, littleEndian, lowOctet, highOctet]

/-- An even count of octets is what its groups stand for. -/
theorem octets_groups {list : List UInt8} (even : list.length % 2 = 0) :
    octets (groups list) = list := by
  fun_induction groups list with
  | case1 high low rest ih =>
      have evenRest : rest.length % 2 = 0 := by
        simp only [List.length_cons] at even
        omega
      have others := ih evenRest
      rw [octets] at others ⊢
      rw [List.flatMap_cons, others, bigEndian_group]
      rfl
  | case2 short =>
      rcases short with _ | ⟨first, _ | ⟨second, rest⟩⟩
      · rfl
      · simp at even
      · simp_all

/-! ## Runs of zeros -/

/-- The zeros at the front are what is counted. -/
theorem zeroRun_spec (all : List Nat) :
    all = List.replicate (zeroRun all) 0 ++ all.drop (zeroRun all) := by
  induction all with
  | nil => rfl
  | cons group rest ih =>
      by_cases zero : group = 0
      · have longer : zeroRun (group :: rest) = zeroRun rest + 1 := by
          simp [zeroRun, zero]
        rw [longer, List.replicate_succ, List.drop_succ_cons, zero,
          List.cons_append, ← ih]
      · have none : zeroRun (group :: rest) = 0 := by
          simp [zeroRun, zero]
        rw [none]
        rfl

/-- The run that is found is a run of zeros. -/
theorem longestRun_spec (all : List Nat) :
    all = all.take (longestRun all).1 ++
      List.replicate (longestRun all).2 0 ++
      all.drop ((longestRun all).1 + (longestRun all).2) := by
  induction all with
  | nil => rfl
  | cons group rest ih =>
      rw [longestRun]
      split
      next start length equation =>
      split
      · next shorter =>
          have front := zeroRun_spec (group :: rest)
          simpa using front
      · next longer =>
          rw [equation] at ih
          simp only [List.take_succ_cons, List.cons_append]
          rw [show start + 1 + length = start + length + 1 by omega,
            List.drop_succ_cons, ← ih]

/-! ## The omitted run in a text -/

theorem splitGap?_cons {character : Char} {rest : List Char}
    (single : ∀ more, character :: rest ≠ ':' :: ':' :: more) :
    splitGap? (character :: rest) =
      (splitGap? rest).map fun (before, after) =>
        (character :: before, after) := by
  rw [splitGap?]
  intro more first second
  exact single more (by rw [first, second])

/-- A stretch without colons is passed over. -/
theorem splitGap?_item {item : List Char} (absent : ':' ∉ item)
    (rest : List Char) :
    splitGap? (item ++ rest) =
      (splitGap? rest).map fun (before, after) =>
        (item ++ before, after) := by
  induction item with
  | nil => simp
  | cons character more ih =>
      have others := ih fun member => absent (List.mem_cons_of_mem _ member)
      have other : character ≠ ':' := by
        rintro rfl
        exact absent List.mem_cons_self
      rw [List.cons_append, splitGap?_cons (by simp [other]), others]
      simp [Function.comp_def]

/-- Items between single colons are passed over. -/
theorem splitGap?_join {items : List (List Char)}
    (some : ∀ item ∈ items, item ≠ [])
    (absent : ∀ item ∈ items, ':' ∉ item) (rest : List Char) :
    splitGap? (Text.join [':'] items ++ rest) =
      (splitGap? rest).map fun (before, after) =>
        (Text.join [':'] items ++ before, after) := by
  induction items with
  | nil => simp [Text.join]
  | cons first others ih =>
      have inFirst := absent first List.mem_cons_self
      cases others with
      | nil => exact splitGap?_item inFirst rest
      | cons second more =>
          have later := ih
            (fun item member => some item (List.mem_cons_of_mem _ member))
            (fun item member => absent item (List.mem_cons_of_mem _ member))
          have single : ∀ tail, ':' :: (Text.join [':'] (second :: more) ++
              rest) ≠ ':' :: ':' :: tail := by
            intro tail equal
            obtain ⟨joined, starts⟩ := Text.exists_join_eq [':'] second more
            have begins := (List.cons.inj equal).2
            rw [starts] at begins
            cases second with
            | nil => exact some [] (by simp) rfl
            | cons character word =>
                have colon : character = ':' := (List.cons.inj begins).1
                exact absent (character :: word) (by simp) (by simp [colon])
          rw [Text.join_cons_cons, List.append_assoc, List.append_assoc,
            splitGap?_item inFirst, List.singleton_append,
            splitGap?_cons single, later]
          simp [Function.comp_def]

/-! ## Written groups -/

theorem colon_not_mem_group (group : Nat) :
    ':' ∉ Numeral.render 16 group := by
  intro colon
  have digit := Numeral.isDigit_of_mem_render (by decide) (by decide) colon
  exact absurd digit (by decide)

theorem dot_not_mem_group (group : Nat) :
    '.' ∉ Numeral.render 16 group := by
  intro dot
  have digit := Numeral.isDigit_of_mem_render (by decide) (by decide) dot
  exact absurd digit (by decide)

theorem split_renderGroups {all : List Nat} (some : all ≠ []) :
    Text.split ':' (renderGroups all) = all.map (Numeral.render 16) := by
  apply Text.split_join (by simpa using some)
  intro item member
  obtain ⟨group, -, rfl⟩ := List.mem_map.1 member
  exact colon_not_mem_group group

theorem splitGap?_renderGroups (all : List Nat) (rest : List Char) :
    splitGap? (renderGroups all ++ rest) =
      (splitGap? rest).map fun (before, after) =>
        (renderGroups all ++ before, after) := by
  apply splitGap?_join
  · intro item member
    obtain ⟨group, -, rfl⟩ := List.mem_map.1 member
    exact Numeral.render_ne_nil 16 group
  · intro item member
    obtain ⟨group, -, rfl⟩ := List.mem_map.1 member
    exact colon_not_mem_group group

theorem renderGroups_eq_nil_iff {all : List Nat} :
    renderGroups all = [] ↔ all = [] := by
  constructor
  · intro empty
    cases all with
    | nil => rfl
    | cons group rest =>
        obtain ⟨tail, starts⟩ := Text.exists_join_eq [':']
          (Numeral.render 16 group) (rest.map (Numeral.render 16))
        rw [renderGroups, List.map_cons, starts] at empty
        exact absurd (List.append_eq_nil_iff.1 empty).1
          (Numeral.render_ne_nil 16 group)
  · rintro rfl
    rfl

theorem group?_render {group : Nat} (small : group < 65536) :
    group? (Numeral.render 16 group) = some group := by
  have short : (Numeral.render 16 group).length ≤ 4 :=
    Numeral.length_render_le (by decide) small
  have some : Numeral.render 16 group ≠ [] := Numeral.render_ne_nil 16 group
  have read : Numeral.value? 16 (Numeral.render 16 group) = Option.some group :=
    Numeral.value?_render (by decide) (by decide) group
  simp [group?, guard, some, short, read]

/-- A text without dots has no IPv4 part. -/
theorem mixed?_of_not_mem {text : List Char} (absent : '.' ∉ text) :
    mixed? text = none := by
  rw [mixed?, Ipv4.parse?, Text.split_of_not_mem absent]
  rfl

theorem groupList?_render {all : List Nat}
    (small : ∀ group ∈ all, group < 65536) :
    groupList? (all.map (Numeral.render 16)) = some all := by
  induction all with
  | nil => rfl
  | cons group rest ih =>
      have first := group?_render (small group List.mem_cons_self)
      have others := ih fun other member =>
        small other (List.mem_cons_of_mem _ member)
      cases rest with
      | nil =>
          simp [groupList?, mixed?_of_not_mem (dot_not_mem_group group),
            first]
      | cons second more =>
          rw [List.map_cons] at others ⊢
          rw [List.map_cons, groupList?, first]
          · simp [others]
          · simp

theorem side?_renderGroups {all : List Nat}
    (small : ∀ group ∈ all, group < 65536) :
    side? (renderGroups all) = some all := by
  rw [side?]
  split
  · next empty => rw [renderGroups_eq_nil_iff.1 empty]
  · next full =>
      have some : all ≠ [] := fun empty =>
        full (renderGroups_eq_nil_iff.2 empty)
      rw [split_renderGroups some, groupList?_render small]

theorem front?_renderGroups {all : List Nat}
    (small : ∀ group ∈ all, group < 65536) :
    front? (renderGroups all) = some all := by
  rw [front?]
  split
  · next empty => rw [renderGroups_eq_nil_iff.1 empty]
  · next full =>
      have some : all ≠ [] := fun empty =>
        full (renderGroups_eq_nil_iff.2 empty)
      rw [split_renderGroups some]
      exact mapM_map_eq_some fun group member =>
        group?_render (small group member)

/-! ## Whole addresses -/

/-- Groups around an omitted run of zeros are read with the run. -/
theorem parseGroups?_gap {front back : List Nat}
    (frontSmall : ∀ group ∈ front, group < 65536)
    (backSmall : ∀ group ∈ back, group < 65536)
    (room : front.length + back.length ≤ 7) :
    parseGroups? (renderGroups front ++ ':' :: ':' :: renderGroups back) =
      some (front ++
        List.replicate (8 - front.length - back.length) 0 ++ back) := by
  have cut := splitGap?_renderGroups front (':' :: ':' :: renderGroups back)
  simp only [splitGap?, Option.map_some, List.append_nil] at cut
  simp [parseGroups?, cut, front?_renderGroups frontSmall,
    side?_renderGroups backSmall, guard, room]

/-- Eight groups with colons between them are read. -/
theorem parseGroups?_renderGroups {all : List Nat}
    (small : ∀ group ∈ all, group < 65536) (eight : all.length = 8) :
    parseGroups? (renderGroups all) = some all := by
  have cut := splitGap?_renderGroups all []
  rw [List.append_nil, splitGap?, Option.map_none] at cut
  have some : all ≠ [] := by
    rintro rfl
    simp at eight
  simp [parseGroups?, cut, split_renderGroups some, groupList?_render small,
    guard, eight]

theorem parseGroups?_renderShort {all : List Nat}
    (small : ∀ group ∈ all, group < 65536) (eight : all.length = 8) :
    parseGroups? (renderShort all) = some all := by
  have spec := longestRun_spec all
  rw [renderShort]
  generalize longestRun all = run at spec ⊢
  obtain ⟨start, length⟩ := run
  simp only at spec ⊢
  split
  · next long =>
      have sizes := congrArg List.length spec
      simp only [List.length_append, List.length_replicate] at sizes
      have frontSmall : ∀ group ∈ all.take start, group < 65536 :=
        fun group member => small group (List.mem_of_mem_take member)
      have backSmall : ∀ group ∈ all.drop (start + length), group < 65536 :=
        fun group member => small group (List.mem_of_mem_drop member)
      have read := parseGroups?_gap frontSmall backSmall (by omega)
      have omitted : 8 - (all.take start).length -
          (all.drop (start + length)).length = length := by
        omega
      rw [omitted, ← spec] at read
      simpa using read
  · exact parseGroups?_renderGroups small eight

/-- Two groups that stand as an IPv4 address behind six others are read. -/
theorem parseGroups?_mapped {octets : Octets 4} :
    parseGroups? ("::ffff:".toList ++ Ipv4.render octets.toList) =
      some ([0, 0, 0, 0, 0, 0xFFFF] ++ groups octets.toList) := by
  have solid : ':' ∉ Ipv4.render octets.toList := by
    intro colon
    rcases Ipv4.mem_render colon with dot | digit
    · exact absurd dot (by decide)
    · exact absurd digit (by decide)
  have mixed : mixed? (Ipv4.render octets.toList) =
      some (groups octets.toList) := by
    rw [mixed?, Ipv4.parse?_render]
    rfl
  have size : (groups octets.toList).length = 2 := by
    rw [length_groups, octets.length_toList]
  generalize Ipv4.render octets.toList = tail at solid mixed ⊢
  have ffff : group? ['f', 'f', 'f', 'f'] = some 0xFFFF := by decide
  have cut := Text.split_append_separator
    (show ':' ∉ ['f', 'f', 'f', 'f'] by decide) tail
  rw [Text.split_of_not_mem solid] at cut
  have back : side? ('f' :: 'f' :: 'f' :: 'f' :: ':' :: tail) =
      some (0xFFFF :: groups octets.toList) := by
    rw [side?, if_neg (by simp)]
    simp only [List.cons_append, List.nil_append] at cut
    simp [cut, groupList?, ffff, mixed]
  change parseGroups? (':' :: ':' :: 'f' :: 'f' :: 'f' :: 'f' :: ':' :: tail) =
    _
  rw [parseGroups?, splitGap?]
  simp [front?, back, guard, size, List.replicate]

theorem groups_drop (count : Nat) (octets : List UInt8) :
    groups (octets.drop (2 * count)) = (groups octets).drop count := by
  induction count generalizing octets with
  | zero => rfl
  | succ count ih =>
      rcases octets with _ | ⟨high, _ | ⟨low, rest⟩⟩
      · simp [groups]
      · simp [groups, Nat.mul_succ]
      · rw [Nat.mul_succ, List.drop_succ_cons, List.drop_succ_cons, groups,
          List.drop_succ_cons, ih]

/-- An address is read as it was written. -/
theorem parse?_render (octets : Octets 16) :
    parse? (render octets.toList) = some octets.toList := by
  have even : octets.toList.length % 2 = 0 := by
    rw [octets.length_toList]
  have eight : (groups octets.toList).length = 8 := by
    rw [length_groups, octets.length_toList]
  suffices read : parseGroups? (render octets.toList) =
      some (groups octets.toList) by
    rw [parse?, read, Option.map_some, octets_groups even]
  rw [render]
  split
  · next third fourth shape =>
      have whole : (octets.slice 12 4 (by decide)).toList =
          octets.toList.drop 12 := by
        have short : (octets.toList.drop 12).length ≤ 4 := by
          simp [octets.length_toList]
        exact List.take_of_length_le short
      have last := groups_drop 6 octets.toList
      rw [shape] at last
      rw [← whole, parseGroups?_mapped, whole, last, shape]
      rfl
  · exact parseGroups?_renderShort (fun group => groups_lt) eight

/-! ## Characters -/

theorem splitGap?_eq_some {text before after : List Char}
    (cut : splitGap? text = some (before, after)) :
    text = before ++ ':' :: ':' :: after := by
  fun_induction splitGap? text generalizing before with
  | case1 rest =>
      cases cut
      rfl
  | case2 character rest _ ih =>
      obtain ⟨⟨front, back⟩, inner, equal⟩ := Option.map_eq_some_iff.1 cut
      cases equal
      rw [ih inner]
      rfl
  | case3 => cases cut

theorem mem_of_group? {text : List Char} {group : Nat}
    (read : group? text = some group) {character : Char}
    (member : character ∈ text) : Hex.IsDigit character := by
  obtain ⟨-, -, value⟩ := Option.bind_eq_some_iff.1 read
  exact Numeral.isDigit_of_value? value character member

theorem mem_of_groupList? {items : List (List Char)} {all : List Nat}
    (read : groupList? items = some all) {item : List Char}
    (itemMember : item ∈ items) {character : Char}
    (member : character ∈ item) :
    character = '.' ∨ Hex.IsDigit character := by
  fun_induction groupList? items generalizing all with
  | case1 => cases itemMember
  | case2 last =>
      rw [List.mem_singleton.1 itemMember] at member
      rcases Option.or_eq_some_iff.1 read with mixed | ⟨-, single⟩
      · obtain ⟨octets, parsed, -⟩ := Option.map_eq_some_iff.1 mixed
        exact Ipv4.mem_of_parse? parsed member
      · obtain ⟨group, parsed, -⟩ := Option.map_eq_some_iff.1 single
        exact Or.inr (mem_of_group? parsed member)
  | case3 first rest _ ih =>
      obtain ⟨group, firstRead, others⟩ := Option.bind_eq_some_iff.1 read
      obtain ⟨more, restRead, -⟩ := Option.bind_eq_some_iff.1 others
      rcases List.mem_cons.1 itemMember with rfl | inRest
      · exact Or.inr (mem_of_group? firstRead member)
      · exact ih restRead inRest

theorem mem_of_side? {text : List Char} {all : List Nat}
    (read : side? text = some all) {character : Char}
    (member : character ∈ text) :
    character = ':' ∨ character = '.' ∨ Hex.IsDigit character := by
  rcases Text.mem_of_split member with colon | ⟨item, itemMember, inItem⟩
  · exact Or.inl colon
  · right
    rw [side?, if_neg (List.ne_nil_of_mem member)] at read
    exact mem_of_groupList? read itemMember inItem

theorem mem_of_front? {text : List Char} {all : List Nat}
    (read : front? text = some all) {character : Char}
    (member : character ∈ text) :
    character = ':' ∨ Hex.IsDigit character := by
  rcases Text.mem_of_split member with colon | ⟨item, itemMember, inItem⟩
  · exact Or.inl colon
  · right
    rw [front?, if_neg (List.ne_nil_of_mem member)] at read
    obtain ⟨group, itemRead⟩ := exists_of_mapM_eq_some read itemMember
    exact mem_of_group? itemRead inItem

/-- What is read as an IPv6 address has colons, dots and digits only. -/
theorem mem_of_parse? {text : List Char} {octets : List UInt8}
    (read : parse? text = some octets) {character : Char}
    (member : character ∈ text) :
    character = ':' ∨ character = '.' ∨ Hex.IsDigit character := by
  obtain ⟨all, read, -⟩ := Option.map_eq_some_iff.1 read
  unfold parseGroups? at read
  split at read
  · obtain ⟨list, listRead, -⟩ := Option.bind_eq_some_iff.1 read
    rcases Text.mem_of_split member with colon | ⟨item, itemMember, inItem⟩
    · exact Or.inl colon
    · exact Or.inr (mem_of_groupList? listRead itemMember inItem)
  · next before after cut =>
      obtain ⟨front, frontRead, read⟩ := Option.bind_eq_some_iff.1 read
      obtain ⟨back, backRead, -⟩ := Option.bind_eq_some_iff.1 read
      rw [splitGap?_eq_some cut] at member
      rcases List.mem_append.1 member with inFront | inBack
      · rcases mem_of_front? frontRead inFront with colon | digit
        · exact Or.inl colon
        · exact Or.inr (Or.inr digit)
      · rcases List.mem_cons.1 inBack with colon | inBack
        · exact Or.inl colon
        · rcases List.mem_cons.1 inBack with colon | inBack
          · exact Or.inl colon
          · exact mem_of_side? backRead inBack

/-- A text without colons is no IPv6 address. -/
theorem parse?_of_not_mem {text : List Char} (absent : ':' ∉ text) :
    parse? text = none := by
  have cut : splitGap? text = none := by
    rw [Option.eq_none_iff_forall_ne_some]
    rintro ⟨before, after⟩ found
    rw [splitGap?_eq_some found] at absent
    simp at absent
  suffices short : ∀ all, groupList? [text] = some all → all.length ≠ 8 by
    cases read : groupList? [text] with
    | none => simp [parse?, parseGroups?, cut, Text.split_of_not_mem absent,
        read]
    | some all =>
        simp [parse?, parseGroups?, cut, Text.split_of_not_mem absent, read,
          guard, short all read]
  intro all read
  rcases Option.or_eq_some_iff.1 read with mixed | ⟨-, single⟩
  · obtain ⟨octets, parsed, rfl⟩ := Option.map_eq_some_iff.1 mixed
    rw [length_groups, Ipv4.length_of_parse? parsed]
    decide
  · obtain ⟨group, -, rfl⟩ := Option.map_eq_some_iff.1 single
    simp

end Tunnel.Ipv6

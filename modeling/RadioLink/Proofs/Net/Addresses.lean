import Mathlib.Data.List.TakeWhile
import RadioLink.Net.IpAddress
import RadioLink.Proofs.Text.Digits

/-!
Internet addresses read back from their text: the dotted form, and the form in groups, with its gap
where it has one.
-/

set_option autoImplicit false
set_option relaxedAutoImplicit false

namespace RadioLink.Net

open Text (decimalDigits hexDigits pieces pieces_append pieces_of_not_mem)

/-! ### The dotted form -/

namespace Ipv4

variable {text : List Char} {ip : Ipv4}

private theorem readOctet?_decimalDigits (octet : UInt8) :
    readOctet? (decimalDigits octet.toNat) = some octet := by
  have hsmall : octet.toNat < 256 := octet.toNat_lt
  have hlength : ¬ 3 < (decimalDigits octet.toNat).length :=
    Nat.not_lt.mpr (Text.length_decimalDigits_le (k := 2) (by omega))
  have hzero : ¬ ((decimalDigits octet.toNat).head? = some '0' ∧
      1 < (decimalDigits octet.toNat).length) := by
    rintro ⟨hhead, hlong⟩
    rw [Text.eq_zero_of_head_decimalDigits hhead, decimalDigits, if_pos (by decide)] at hlong
    exact absurd hlong (by decide)
  rw [readOctet?, if_neg (by simpa [hlength] using hzero), Text.readDecimal?_decimalDigits]
  simp [hsmall]

private theorem ofChars?_chars (ip : Ipv4) : ofChars? ip.chars = some ip := by
  have hapart (n : Nat) : '.' ∉ decimalDigits n := fun mem =>
    absurd (Text.isDecimalDigit_of_mem mem) (by decide)
  simp [ofChars?, chars, pieces_append, pieces_of_not_mem, hapart, readOctet?_decimalDigits]

theorem colon_not_mem_chars (ip : Ipv4) : ':' ∉ ip.chars := by
  simp [chars, Text.colon_not_mem_decimalDigits]

private theorem isDecimalDigit_of_readOctet? {octet : UInt8} (read : readOctet? text = some octet) :
    ∀ c ∈ text, Text.isDecimalDigit c = true := by
  rw [readOctet?] at read
  split_ifs at read
  obtain ⟨n, hn, -⟩ := Option.bind_eq_some_iff.mp read
  rw [Text.readDecimal?] at hn
  split_ifs at hn with hdigits
  exact List.all_eq_true.mp (Bool.and_eq_true_iff.mp hdigits).2

private theorem colon_not_mem_of_readOctet? {octet : UInt8} (read : readOctet? text = some octet) :
    ':' ∉ text := fun mem =>
  absurd (isDecimalDigit_of_readOctet? read ':' mem) (by decide)

private theorem colon_not_mem_of_ofChars? (read : ofChars? text = some ip) : ':' ∉ text := by
  intro hcolon
  obtain ⟨piece, hpiece, hmem⟩ := Text.exists_mem_pieces hcolon (by decide : ':' ≠ '.')
  unfold ofChars? at read
  split at read
  case h_2 => cases read
  case h_1 a b c d hpieces =>
    simp only [Option.bind_eq_bind, Option.bind_eq_some_iff] at read
    obtain ⟨_, ha, _, hb, _, hc, _, hd, -⟩ := read
    rw [hpieces] at hpiece
    simp only [List.mem_cons, List.not_mem_nil, or_false] at hpiece
    rcases hpiece with rfl | rfl | rfl | rfl
    · exact colon_not_mem_of_readOctet? ha hmem
    · exact colon_not_mem_of_readOctet? hb hmem
    · exact colon_not_mem_of_readOctet? hc hmem
    · exact colon_not_mem_of_readOctet? hd hmem

theorem length_chars (ip : Ipv4) : 4 < ip.chars.length := by
  have hlength (n : Nat) : 0 < (decimalDigits n).length :=
    List.length_pos_iff.mpr (Text.decimalDigits_ne_nil n)
  have ha := hlength ip.a.toNat
  have hb := hlength ip.b.toNat
  simp only [chars, List.length_append, List.length_cons]
  omega

end Ipv4

/-! ### Groups -/

namespace Ipv6

variable {front back groups : List UInt16}

private def digitsOf (groups : List UInt16) : List (List Char) :=
  groups.map fun g => hexDigits g.toNat

private theorem readGroup?_hexDigits (g : UInt16) : readGroup? (hexDigits g.toNat) = some g := by
  have hsmall : g.toNat < 16 ^ (3 + 1) := g.toNat_lt
  rw [readGroup?, Text.readHex?_hexDigits hsmall]
  simp

private theorem colon_not_mem_hexDigits (n : Nat) : ':' ∉ hexDigits n := fun mem =>
  absurd (Text.hexValue?_of_mem mem) (by decide)

private theorem readHead?_digitsOf (groups : List UInt16) :
    readHead? (digitsOf groups) = some groups := by
  induction groups with
  | nil => rfl
  | cons g groups ih =>
    rw [readHead?, digitsOf, List.map_cons, List.mapM_cons, readGroup?_hexDigits]
    rw [readHead?, digitsOf] at ih
    rw [ih]
    rfl

private theorem readTail?_digitsOf (groups : List UInt16) :
    readTail? (digitsOf groups) = some groups := by
  induction groups with
  | nil => rfl
  | cons g groups ih =>
    cases groups with
    | nil => simp [digitsOf, readTail?, readGroup?_hexDigits]
    | cons next groups =>
      simp only [digitsOf, List.map_cons] at ih ⊢
      rw [readTail?, readGroup?_hexDigits, ih]
      · rfl
      · nofun

private theorem joinGroups_cons (g next : UInt16) (groups : List UInt16) :
    joinGroups (g :: next :: groups) = hexDigits g.toNat ++ ':' :: joinGroups (next :: groups) :=
  rfl

private theorem pieces_joinGroups (g : UInt16) (groups : List UInt16) :
    pieces ':' (joinGroups (g :: groups)) = digitsOf (g :: groups) := by
  induction groups generalizing g with
  | nil => exact pieces_of_not_mem (colon_not_mem_hexDigits g.toNat)
  | cons next groups ih =>
    rw [joinGroups_cons, pieces_append, pieces_of_not_mem (colon_not_mem_hexDigits g.toNat), ih]
    rfl

private theorem solid_of_mem_digitsOf {piece : List Char} (mem : piece ∈ digitsOf groups) :
    (!piece.isEmpty) = true := by
  obtain ⟨g, -, rfl⟩ := List.mem_map.mp mem
  simpa using Text.hexDigits_ne_nil g.toNat

private theorem ofChars?_joinGroups (ip : Ipv6) : ofChars? (joinGroups ip.groups) = some ip := by
  obtain ⟨groups, hlength⟩ := ip
  obtain ⟨g, groups, rfl⟩ := List.exists_cons_of_length_pos (by omega : 0 < groups.length)
  have hspan : (digitsOf (g :: groups)).span (!·.isEmpty) = (digitsOf (g :: groups), []) := by
    have hsolid : ∀ piece ∈ digitsOf (g :: groups), (!piece.isEmpty) = true :=
      fun piece => solid_of_mem_digitsOf
    rw [List.span_eq_takeWhile_dropWhile, List.takeWhile_eq_self_iff.mpr hsolid,
      List.dropWhile_eq_nil_iff.mpr hsolid]
  rw [ofChars?, pieces_joinGroups, ofPieces?, hspan]
  simp [readTail?_digitsOf, ofGroups?, hlength]

private theorem span_digitsOf (groups : List UInt16) (rest : List (List Char)) :
    (digitsOf groups ++ [] :: rest).span (!·.isEmpty) = (digitsOf groups, [] :: rest) := by
  have hsolid : ∀ piece ∈ digitsOf groups, (!piece.isEmpty) = true :=
    fun piece => solid_of_mem_digitsOf
  rw [List.span_eq_takeWhile_dropWhile, List.takeWhile_append_of_pos hsolid,
    List.dropWhile_append_of_pos hsolid]
  simp

private def sideOf (groups : List UInt16) : List (List Char) :=
  if groups = [] then [[]] else digitsOf groups

private theorem pieces_side (groups : List UInt16) :
    pieces ':' (joinGroups groups) = sideOf groups := by
  cases groups with
  | nil => rfl
  | cons g groups => exact pieces_joinGroups g groups

private theorem ofPieces?_leading (back : List UInt16) :
    ofPieces? ([] :: [] :: sideOf back) = fillGap? [] back := by
  cases back with
  | nil => rfl
  | cons b back =>
    obtain ⟨c, digits, hdigits⟩ := List.exists_cons_of_ne_nil (Text.hexDigits_ne_nil b.toNat)
    have hback : readTail? ((c :: digits) :: digitsOf back) = some (b :: back) :=
      hdigits ▸ readTail?_digitsOf (b :: back)
    have hside : sideOf (b :: back) = (c :: digits) :: digitsOf back := hdigits ▸ rfl
    have hspan := span_digitsOf [] ([] :: (c :: digits) :: digitsOf back)
    rw [digitsOf, List.map_nil, List.nil_append] at hspan
    rw [hside, ofPieces?, hspan]
    simp [hback]

private theorem ofPieces?_inner (f : UInt16) (front back : List UInt16) :
    ofPieces? (digitsOf (f :: front) ++ [] :: sideOf back) = fillGap? (f :: front) back := by
  have hsolid : (digitsOf (f :: front)).isEmpty = false := rfl
  rw [ofPieces?, span_digitsOf]
  cases back with
  | nil => simp [hsolid, sideOf, readHead?_digitsOf]
  | cons b back =>
    have hsome : (digitsOf (b :: back)).isEmpty = false := rfl
    have hother : digitsOf (b :: back) ≠ [[]] := by simp [digitsOf, Text.hexDigits_ne_nil]
    simp [hsolid, sideOf, readHead?_digitsOf, hsome, hother, readTail?_digitsOf]

private theorem ofChars?_gap (front back : List UInt16) :
    ofChars? (joinGroups front ++ "::".toList ++ joinGroups back) = fillGap? front back := by
  have htext : joinGroups front ++ "::".toList ++ joinGroups back =
      joinGroups front ++ ':' :: ([] ++ ':' :: joinGroups back) := by simp
  have hnone : pieces ':' [] = [[]] := rfl
  rw [ofChars?, htext, pieces_append, pieces_append, pieces_side, pieces_side, hnone]
  cases front with
  | nil => exact ofPieces?_leading back
  | cons f front => exact ofPieces?_inner f front back

/-! ### Gaps -/

private theorem zeroRun_split (groups : List UInt16) :
    groups = List.replicate (zeroRun groups) 0 ++ groups.drop (zeroRun groups) := by
  have hzeros : groups.takeWhile (· = 0) = List.replicate (zeroRun groups) 0 :=
    List.eq_replicate_iff.mpr ⟨rfl, fun g mem => by simpa using List.mem_takeWhile_imp mem⟩
  have hrest : groups.drop (zeroRun groups) = groups.dropWhile (· = 0) := by
    conv_lhs => rw [← List.takeWhile_append_dropWhile (p := (· = 0)) (l := groups)]
    exact List.drop_left' (by rw [List.takeWhile_append_dropWhile]; rfl)
  rw [hrest, ← hzeros, List.takeWhile_append_dropWhile]

private theorem longestZeros_split (index : Nat) (groups : List UInt16) :
    ∃ start, (longestZeros index groups).1 = index + start ∧
      groups = groups.take start ++ List.replicate (longestZeros index groups).2 0 ++
        groups.drop (start + (longestZeros index groups).2) := by
  induction groups generalizing index with
  | nil => exact ⟨0, rfl, rfl⟩
  | cons g groups ih =>
    obtain ⟨start, hstart, hsplit⟩ := ih (index + 1)
    simp only [longestZeros]
    split_ifs with hlonger
    · exact ⟨0, rfl, by simpa using zeroRun_split (g :: groups)⟩
    · refine ⟨start + 1, by rw [hstart]; omega, ?_⟩
      rw [Nat.add_right_comm, List.take_succ_cons, List.drop_succ_cons, List.cons_append,
        List.cons_append, ← hsplit]

private theorem fillGap?_of_split (ip : Ipv6) {zeros : Nat} (some_zeros : 0 < zeros)
    (split : ip.groups = front ++ List.replicate zeros 0 ++ back) :
    fillGap? front back = some ip := by
  obtain ⟨groups, hlength⟩ := ip
  have hcount : front.length + zeros + back.length = 8 := by
    rw [← hlength, show groups = _ from split]
    simp [Nat.add_assoc]
  have hzeros : 8 - front.length - back.length = zeros := by omega
  rw [fillGap?, if_pos (by omega), hzeros]
  subst split
  rw [ofGroups?, dif_pos hlength]

/-! ### Mapped addresses -/

private theorem join_octets (g : UInt16) :
    (g >>> 8).toUInt8.toUInt16 <<< 8 ||| g.toUInt8.toUInt16 = g := by
  apply UInt16.toNat_inj.mp
  have hg : g.toNat < 65536 := g.toNat_lt
  have height : UInt16.toNat 8 % 16 = 8 := rfl
  have hhigh : (g.toNat >>> 8 % 2 ^ 8) <<< 8 % 2 ^ 16 = (g.toNat / 256) <<< 8 := by
    rw [Nat.shiftRight_eq_div_pow, Nat.shiftLeft_eq, Nat.shiftLeft_eq]
    omega
  rw [UInt16.toNat_or, UInt16.toNat_shiftLeft, UInt8.toNat_toUInt16, UInt16.toNat_toUInt8,
    UInt16.toNat_shiftRight, UInt8.toNat_toUInt16, UInt16.toNat_toUInt8, height, hhigh,
    ← Nat.shiftLeft_add_eq_or_of_lt (Nat.mod_lt _ (by decide)), Nat.shiftLeft_eq]
  omega

private theorem groupsOfIpv4_of_mapped? {ip : Ipv6} {v4 : Ipv4} (mapped : ip.mapped? = some v4) :
    ip.groups = [0, 0, 0, 0, 0, 0xffff] ++ groupsOfIpv4 v4 := by
  unfold mapped? at mapped
  split at mapped
  case h_2 => cases mapped
  case h_1 g h hgroups =>
    obtain rfl := Option.some.inj mapped
    rw [hgroups, groupsOfIpv4, join_octets, join_octets]
    rfl

private theorem readGroup?_eq_none (v4 : Ipv4) : readGroup? v4.chars = none := by
  have hlong : 4 < v4.chars.length := v4.length_chars
  simp [readGroup?, Text.readHex?, hlong]

private theorem ofChars?_mapped (v4 : Ipv4) :
    ofChars? ("::ffff:".toList ++ v4.chars) = fillGap? [] (0xffff :: groupsOfIpv4 v4) := by
  have htext : "::ffff:".toList ++ v4.chars =
      [] ++ ':' :: ([] ++ ':' :: ("ffff".toList ++ ':' :: v4.chars)) := by simp
  have hffff : readGroup? ['f', 'f', 'f', 'f'] = some 0xffff := by decide
  rw [ofChars?, htext, pieces_append, pieces_append, pieces_append,
    pieces_of_not_mem v4.colon_not_mem_chars,
    pieces_of_not_mem (by decide : ':' ∉ "ffff".toList)]
  have hspan : (pieces ':' [] ++ (pieces ':' [] ++ (["ffff".toList] ++ [v4.chars]))).span
      (!·.isEmpty) = ([], [] :: [] :: "ffff".toList :: [v4.chars]) := rfl
  rw [ofPieces?, hspan]
  simp [readTail?, hffff, readGroup?_eq_none, Ipv4.ofChars?_chars]

/-! ### Every form -/

private theorem ofChars?_chars (ip : Ipv6) : ofChars? ip.chars = some ip := by
  rw [chars]
  cases hmapped : ip.mapped? with
  | some v4 =>
    have hsplit : ip.groups = [] ++ List.replicate 5 0 ++ (0xffff :: groupsOfIpv4 v4) :=
      groupsOfIpv4_of_mapped? hmapped
    exact (ofChars?_mapped v4).trans (fillGap?_of_split ip (by decide) hsplit)
  | none =>
    obtain ⟨start, hstart, hsplit⟩ := longestZeros_split 0 ip.groups
    rw [Nat.zero_add] at hstart
    simp only
    split_ifs with hlong
    · rw [hstart, ofChars?_gap]
      exact fillGap?_of_split ip (Nat.lt_of_succ_lt hlong) hsplit
    · exact ofChars?_joinGroups ip

private theorem colon_mem_chars (ip : Ipv6) : ':' ∈ ip.chars := by
  obtain ⟨groups, hlength⟩ := ip
  rw [chars]
  cases mapped? ⟨groups, hlength⟩ with
  | some v4 => simp
  | none =>
    simp only
    split_ifs
    · simp
    · match groups, hlength with
      | g :: next :: groups, _ => simp [joinGroups_cons]

end Ipv6

namespace IpAddress

/-- Every address is read back from its text. -/
theorem ofChars?_chars (ip : IpAddress) : ofChars? ip.chars = some ip := by
  cases ip with
  | v4 ip =>
    have hread : Ipv4.ofChars? (v4 ip).chars = some ip := ip.ofChars?_chars
    rw [ofChars?, hread]
  | v6 ip =>
    have hread : Ipv6.ofChars? (v6 ip).chars = some ip := ip.ofChars?_chars
    have hother : Ipv4.ofChars? (v6 ip).chars = none :=
      Option.eq_none_iff_forall_ne_some.mpr fun other hother =>
        Ipv4.colon_not_mem_of_ofChars? hother ip.colon_mem_chars
    rw [ofChars?, hother, hread]
    rfl

theorem toList_toString (ip : IpAddress) : (toString ip).toList = ip.chars :=
  String.toList_ofList

theorem toString_injective {ip other : IpAddress} (same : toString ip = toString other) :
    ip = other := by
  have hchars : ip.chars = other.chars := by rw [← toList_toString, same, toList_toString]
  have hread : some ip = some other := by
    rw [← ofChars?_chars ip, hchars, ofChars?_chars]
  exact Option.some.inj hread

end IpAddress

end RadioLink.Net

import RadioLink.Proofs.Text.Octets
import RadioLink.Proofs.Text.Trimming
import RadioLink.Text.Utf8

/-!
Texts read out of octets. What has been written in UTF-8 is read as it was. An octet below 0x80 is a
character of its own wherever it stands, since it continues no other; so whatever the octets are,
they may be read in two parts where one begins, and white space around them is white space around
the text.
-/

set_option autoImplicit false
set_option relaxedAutoImplicit false

namespace RadioLink.Text.Utf8

variable {p : Pending} {b : UInt8} {front back rest : Bytes} {value owed low high n : Nat}

/-! ### A character of its own -/

/-- No octet below 0x80 continues the character begun. -/
private def Pending.Sound : Pending → Prop
  | .start => True
  | .inside _ _ low _ => 0x80 ≤ low

private theorem sound_first (n : Nat) : (first n).2.Sound := by
  unfold first
  -- The least octets that may come next are 0x80, 0x90 and 0xa0.
  split_ifs <;> simp [Pending.Sound]

private theorem Pending.Sound.sound_step (sound : p.Sound) (n : Nat) : (step p n).2.Sound := by
  cases p with
  | start => exact sound_first n
  | inside value owed low high =>
    simp only [step]
    split_ifs
    · trivial
    · exact Nat.le_refl _
    · exact sound_first n

private theorem first_ascii (ascii : n < 0x80) : first n = ([some (Char.ofNat n)], .start) :=
  if_pos ascii

private theorem scanFrom_cons (p : Pending) (b : UInt8) (rest : Bytes) :
    scanFrom p (b :: rest) = (step p b.toNat).1 ++ scanFrom (step p b.toNat).2 rest := rfl

private theorem scan_ascii_cons (ascii : b.toNat < 0x80) (rest : Bytes) :
    scan (b :: rest) = some (Char.ofNat b.toNat) :: scan rest := by
  rw [scan, scanFrom_cons, step, first_ascii ascii]
  rfl

private theorem lossy_ascii_cons (ascii : b.toNat < 0x80) (rest : Bytes) :
    lossy (b :: rest) = Char.ofNat b.toNat :: lossy rest := by
  rw [lossy, scan_ascii_cons ascii]
  rfl

private theorem Pending.Sound.scanFrom_ascii_cons (sound : p.Sound) (ascii : b.toNat < 0x80)
    (rest : Bytes) : scanFrom p (b :: rest) = scanFrom p [] ++ scan (b :: rest) := by
  cases p with
  | start => rfl
  | inside value owed low high =>
    have hlow : 0x80 ≤ low := sound
    have hout : ¬(low ≤ b.toNat ∧ b.toNat ≤ high) := by omega
    have hstep : step (.inside value owed low high) b.toNat =
        ([none, some (Char.ofNat b.toNat)], .start) := by
      simp only [step, if_neg hout, first_ascii ascii]
    rw [scan_ascii_cons ascii, scanFrom_cons, hstep]
    rfl

private theorem Pending.Sound.scanFrom_append (sound : p.Sound)
    (ascii : ∀ b ∈ back.head?, b.toNat < 0x80) (front : Bytes) :
    scanFrom p (front ++ back) = scanFrom p front ++ scan back := by
  induction front generalizing p with
  | nil =>
    cases back with
    | nil => exact (List.append_nil _).symm
    | cons b back => exact sound.scanFrom_ascii_cons (ascii b rfl) back
  | cons b front ih =>
    rw [List.cons_append, scanFrom_cons, ih (sound.sound_step b.toNat), scanFrom_cons,
      List.append_assoc]

private theorem lossy_append (ascii : ∀ b ∈ back.head?, b.toNat < 0x80) (front : Bytes) :
    lossy (front ++ back) = lossy front ++ lossy back := by
  have hscan : scan (front ++ back) = scan front ++ scan back :=
    Pending.Sound.scanFrom_append (p := .start) trivial ascii front
  rw [lossy, hscan, List.map_append]
  rfl

/-! ### Texts in UTF-8 -/

private theorem toNat_octet (small : n < 256) : (UInt8.ofNat n).toNat = n :=
  UInt8.toNat_ofNat_of_lt' small

private theorem first_two (least : 2 ≤ n) (small : n < 32) :
    first (n + 0xc0) = ([], .inside n 1 0x80 0xbf) := by
  have hall : ∀ n : Fin 32, 2 ≤ n.val → first (n + 0xc0) = ([], .inside n 1 0x80 0xbf) := by decide
  exact hall ⟨n, small⟩ least

private theorem first_three (small : n < 16) : first (n + 0xe0) =
    ([], .inside n 2 (if n = 0 then 0xa0 else 0x80) (if n = 13 then 0x9f else 0xbf)) := by
  have hall : ∀ n : Fin 16, first (n + 0xe0) = ([], .inside n 2
    (if n.val = 0 then 0xa0 else 0x80) (if n.val = 13 then 0x9f else 0xbf)) := by decide
  exact hall ⟨n, small⟩

private theorem first_four (small : n < 5) : first (n + 0xf0) =
    ([], .inside n 3 (if n = 0 then 0x90 else 0x80) (if n = 4 then 0x8f else 0xbf)) := by
  have hall : ∀ n : Fin 5, first (n + 0xf0) = ([], .inside n 3
    (if n.val = 0 then 0x90 else 0x80) (if n.val = 4 then 0x8f else 0xbf)) := by decide
  exact hall ⟨n, small⟩

private theorem scan_lead (small : n < 256) (lead : first n = ([], p)) (rest : Bytes) :
    scan (UInt8.ofNat n :: rest) = scanFrom p rest := by
  have hoctet : (UInt8.ofNat n).toNat = n := toNat_octet small
  rw [scan, scanFrom_cons, hoctet, step, lead]
  rfl

private theorem scanFrom_tail (least : low ≤ n + 0x80) (greatest : n + 0x80 ≤ high) (small : n < 64)
    (rest : Bytes) :
    scanFrom (.inside value (owed + 2) low high) (UInt8.ofNat (n + 0x80) :: rest) =
      scanFrom (.inside (64 * value + n) (owed + 1) 0x80 0xbf) rest := by
  have hoctet : (UInt8.ofNat (n + 0x80)).toNat = n + 0x80 := toNat_octet (by omega)
  have hstep : step (.inside value (owed + 2) low high) (n + 0x80) =
      ([], .inside (64 * value + n) (owed + 1) 0x80 0xbf) := by
    simp [step, least, greatest]
  rw [scanFrom_cons, hoctet, hstep]
  rfl

private theorem scanFrom_last (small : n < 64) (rest : Bytes) :
    scanFrom (.inside value 1 0x80 0xbf) (UInt8.ofNat (n + 0x80) :: rest) =
      some (Char.ofNat (64 * value + n)) :: scan rest := by
  have hoctet : (UInt8.ofNat (n + 0x80)).toNat = n + 0x80 := toNat_octet (by omega)
  have hstep : step (.inside value 1 0x80 0xbf) (n + 0x80) =
      ([some (Char.ofNat (64 * value + n))], .start) := by
    have hgreatest : n + 0x80 ≤ 0xbf := by omega
    simp [step, hgreatest]
  rw [scanFrom_cons, hoctet, hstep]
  rfl

variable {k l m : Nat}

private theorem scan_two (least : 2 ≤ k) (small : k < 32) (small' : l < 64) (rest : Bytes) :
    scan (UInt8.ofNat (k + 0xc0) :: UInt8.ofNat (l + 0x80) :: rest) =
      some (Char.ofNat (64 * k + l)) :: scan rest := by
  rw [scan_lead (by omega) (first_two least small), scanFrom_last small']

private theorem scan_three (small : k < 16) (small' : l < 64) (small'' : m < 64)
    (least : (if k = 0 then 0xa0 else 0x80) ≤ l + 0x80)
    (greatest : l + 0x80 ≤ if k = 13 then 0x9f else 0xbf) (rest : Bytes) :
    scan (UInt8.ofNat (k + 0xe0) :: UInt8.ofNat (l + 0x80) :: UInt8.ofNat (m + 0x80) :: rest) =
      some (Char.ofNat (64 * (64 * k + l) + m)) :: scan rest := by
  rw [scan_lead (by omega) (first_three small), scanFrom_tail least greatest small',
    scanFrom_last small'']

private theorem scan_four (small : k < 5) (small' : l < 64) (small'' : m < 64) (last : n < 64)
    (least : (if k = 0 then 0x90 else 0x80) ≤ l + 0x80)
    (greatest : l + 0x80 ≤ if k = 4 then 0x8f else 0xbf) (rest : Bytes) :
    scan (UInt8.ofNat (k + 0xf0) :: UInt8.ofNat (l + 0x80) :: UInt8.ofNat (m + 0x80) ::
        UInt8.ofNat (n + 0x80) :: rest) =
      some (Char.ofNat (64 * (64 * (64 * k + l) + m) + n)) :: scan rest := by
  rw [scan_lead (by omega) (first_four small), scanFrom_tail least greatest small',
    scanFrom_tail (by omega) (by omega) small'', scanFrom_last last]

private theorem scan_encoded (c : Char) (rest : Bytes) :
    scan (String.utf8EncodeChar c ++ rest) = some c :: scan rest := by
  obtain ⟨v, hv⟩ : ∃ v, c.val.toNat = v := ⟨_, rfl⟩
  -- No value lies between the halves of a pair, so the second octet is one that may follow.
  have hvalid : v < 0xd800 ∨ 0xdfff < v ∧ v < 0x110000 := hv ▸ c.valid
  have hback : Char.ofNat v = c := hv ▸ Char.ofNat_toNat c
  unfold String.utf8EncodeChar
  simp only [hv]
  split_ifs with hone htwo hthree
  · have hoctet : (UInt8.ofNat v).toNat = v := toNat_octet (by omega)
    rw [List.singleton_append, scan_ascii_cons (by omega), hoctet, hback]
  · have hvalue : 64 * (v / 64 % 32) + v % 64 = v := by omega
    rw [List.cons_append, List.singleton_append,
      scan_two (by omega) (by omega) (by omega), hvalue, hback]
  · have hleast : (if v / 4096 % 16 = 0 then 0xa0 else 0x80) ≤ v / 64 % 64 + 0x80 := by
      split_ifs <;> omega
    have hgreatest : v / 64 % 64 + 0x80 ≤ if v / 4096 % 16 = 13 then 0x9f else 0xbf := by
      split_ifs <;> omega
    have hvalue : 64 * (64 * (v / 4096 % 16) + v / 64 % 64) + v % 64 = v := by omega
    rw [List.cons_append, List.cons_append, List.singleton_append,
      scan_three (by omega) (by omega) (by omega) hleast hgreatest, hvalue, hback]
  · have hleast : (if v / 262144 % 8 = 0 then 0x90 else 0x80) ≤ v / 4096 % 64 + 0x80 := by
      split_ifs <;> omega
    have hgreatest : v / 4096 % 64 + 0x80 ≤ if v / 262144 % 8 = 4 then 0x8f else 0xbf := by
      split_ifs <;> omega
    have hvalue : 64 * (64 * (64 * (v / 262144 % 8) + v / 4096 % 64) + v / 64 % 64) + v % 64 =
        v := by
      omega
    rw [List.cons_append, List.cons_append, List.cons_append, List.singleton_append,
      scan_four (by omega) (by omega) (by omega) (by omega) hleast hgreatest, hvalue, hback]

private theorem scan_ofString (text : String) :
    scan (Bytes.ofString text) = text.toList.map some := by
  rw [Bytes.ofString_eq_flatMap]
  induction text.toList with
  | nil => rfl
  | cons c chars ih => rw [List.flatMap_cons, scan_encoded, ih, List.map_cons]

private theorem strict?_ofString (text : String) : strict? (Bytes.ofString text) = some text := by
  have hall (chars : List Char) : (chars.map some).mapM id = some chars := by
    induction chars with
    | nil => rfl
    | cons c chars ih => rw [List.map_cons, List.mapM_cons, ih]; rfl
  rw [strict?, scan_ofString, hall, Option.map_some, String.ofList_toList]

theorem ofString_injective {s t : String} (same : Bytes.ofString s = Bytes.ofString t) : s = t := by
  have hread := strict?_ofString s
  rw [same, strict?_ofString] at hread
  exact (Option.some.inj hread).symm

/-! ### White space -/

def blanks : Bytes := [9, 10, 11, 12, 13, 32]

private theorem isBlank_of_mem_blanks (mem : b ∈ blanks) :
    b.toNat < 0x80 ∧ isBlank (Char.ofNat b.toNat) = true := by
  simp only [blanks, List.mem_cons, List.not_mem_nil, or_false] at mem
  rcases mem with rfl | rfl | rfl | rfl | rfl | rfl <;> decide

private theorem lossy_blanks_append (blank : ∀ b ∈ front, b ∈ blanks) (rest : Bytes) :
    lossy (front ++ rest) = front.map (fun b => Char.ofNat b.toNat) ++ lossy rest := by
  induction front with
  | nil => rfl
  | cons b front ih =>
    obtain ⟨hb, hfront⟩ := List.forall_mem_cons.mp blank
    rw [List.cons_append, lossy_ascii_cons (isBlank_of_mem_blanks hb).1, ih hfront]
    rfl

private theorem isBlank_of_mem_map (blank : ∀ b ∈ front, b ∈ blanks) :
    ∀ c ∈ front.map fun b => Char.ofNat b.toNat, isBlank c = true := by
  intro c hc
  obtain ⟨b, hb, rfl⟩ := List.mem_map.mp hc
  exact (isBlank_of_mem_blanks (blank b hb)).2

theorem trim_lossy_append (hfront : ∀ b ∈ front, b ∈ blanks) (octets : Bytes)
    (hback : ∀ b ∈ back, b ∈ blanks) :
    trim (lossy (front ++ octets ++ back)) = trim (lossy octets) := by
  have hascii : ∀ b ∈ back.head?, b.toNat < 0x80 := fun b hb =>
    (isBlank_of_mem_blanks (hback b (List.mem_of_mem_head? hb))).1
  have hlast : lossy back = back.map fun b => Char.ofNat b.toNat := by
    have happend := lossy_blanks_append hback []
    rwa [List.append_nil, show lossy [] = [] from rfl, List.append_nil] at happend
  rw [lossy_append hascii, lossy_blanks_append hfront, hlast]
  have htrims := (trims_trim (lossy octets)).append (isBlank_of_mem_map hfront)
    (isBlank_of_mem_map hback)
  exact (trims_iff.mp htrims).symm

end RadioLink.Text.Utf8

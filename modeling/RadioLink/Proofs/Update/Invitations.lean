import RadioLink.Proofs.Text.Lossy
import RadioLink.Proofs.Text.Words
import RadioLink.Update.Invitation

/-!
Invitations read back from their texts. The words of an invitation are its parts, since neither a
number nor a digest nor the answer to a challenge holds a blank; and whatever digests and answers
without spaces are sent, no two invitations look the same.
-/

set_option autoImplicit false
set_option relaxedAutoImplicit false

namespace RadioLink.Update

open Text (IsWord decimalDigits words)

/-! ### Words -/

private theorem isWord_decimalDigits (n : Nat) : IsWord (decimalDigits n) :=
  ⟨Text.decimalDigits_ne_nil n, fun _ mem =>
    Text.isBlank_of_isDecimalDigit (Text.isDecimalDigit_of_mem mem)⟩

private theorem isWord_toHex {octets : Bytes} (nonempty : octets ≠ []) :
    IsWord (Bytes.toHex octets).toList := by
  rw [Bytes.toHex, String.toList_ofList]
  refine ⟨fun hnil => nonempty ?_, fun c mem => Bytes.isBlank_of_mem_hexChars mem⟩
  have hlength := Bytes.length_hexChars octets
  rw [hnil, List.length_nil] at hlength
  exact List.length_eq_zero_iff.mp (by omega)

private theorem isWord_md5Hex (data : Bytes) : IsWord (md5Hex data).toList := by
  apply isWord_toHex
  apply List.ne_nil_of_length_pos
  simp [Digest.md5, Digest.Md5.State.toBytes, Bytes.ofNatLE]

private theorem isWord_sha256Hex (data : Bytes) : IsWord (sha256Hex data).toList := by
  apply isWord_toHex
  apply List.ne_nil_of_length_pos
  simp [Digest.sha256, Digest.Sha256.State.toBytes]

private theorem isWord_challengeAnswer (password nonce : String) :
    IsWord (challengeAnswer password nonce).toList := by
  apply isWord_toHex
  apply List.ne_nil_of_length_pos
  simp [Digest.sha256, Digest.Sha256.State.toBytes]

private theorem words_append_space {word : List Char} (isWord : IsWord word) (rest : List Char) :
    words (word ++ ' ' :: rest) = word :: words rest := by
  have hblank : Text.isBlank ' ' = true := by decide
  rw [Text.words_append isWord, Text.words_blank_cons hblank]
  rintro _ ⟨⟩
  exact hblank

namespace Invitation

variable {i j : Invitation}

private def parts (i : Invitation) : List (List Char) :=
  [decimalDigits i.command.toNat, decimalDigits i.port.toNat, decimalDigits i.size,
    i.digest.toList] ++ (i.answer.map String.toList).toList

private theorem toList_text (i : Invitation) :
    i.text.toList = decimalDigits i.command.toNat ++ ' ' :: (decimalDigits i.port.toNat ++
      ' ' :: (decimalDigits i.size ++ ' ' :: (i.digest.toList ++
        ((i.answer.map fun answer => ' ' :: answer.toList).getD [])))) := by
  cases hanswer : i.answer <;> simp [text, hanswer, Text.decimal]

private theorem words_text (digest : IsWord i.digest.toList)
    (answer : ∀ answer ∈ i.answer, IsWord answer.toList) : words i.text.toList = i.parts := by
  rw [toList_text, words_append_space (isWord_decimalDigits _),
    words_append_space (isWord_decimalDigits _), words_append_space (isWord_decimalDigits _), parts]
  cases hanswer : i.answer with
  | none => simp [Text.words_of_isWord digest]
  | some given =>
    have hgiven : IsWord given.toList := answer given hanswer
    simp [words_append_space digest, Text.words_of_isWord hgiven]

/-! ### Spaces -/

/-- An invitation without spaces in its digest and its answer. -/
structure Plain (i : Invitation) : Prop where
  digest : ' ' ∉ i.digest.toList
  answer : ∀ answer ∈ i.answer, ' ' ∉ answer.toList

private theorem space_not_mem_decimalDigits (n : Nat) : ' ' ∉ decimalDigits n := by
  intro mem
  have hdigit := Text.isDecimalDigit_of_mem mem
  exact absurd hdigit (by decide)

private theorem Plain.pieces_text (plain : i.Plain) : Text.pieces ' ' i.text.toList = i.parts := by
  rw [toList_text, Text.pieces_append, Text.pieces_append, Text.pieces_append,
    Text.pieces_of_not_mem (space_not_mem_decimalDigits _),
    Text.pieces_of_not_mem (space_not_mem_decimalDigits _),
    Text.pieces_of_not_mem (space_not_mem_decimalDigits _), parts]
  cases hanswer : i.answer with
  | none => simp [Text.pieces_of_not_mem plain.digest]
  | some given =>
    have hgiven : ' ' ∉ given.toList := plain.answer given hanswer
    simp [Text.pieces_append, Text.pieces_of_not_mem plain.digest, Text.pieces_of_not_mem hgiven]

private theorem eq_of_parts (same : i.parts = j.parts) : i = j := by
  obtain ⟨command, port, size, digest, answer⟩ := i
  obtain ⟨command', port', size', digest', answer'⟩ := j
  simp only [parts, List.cons_append, List.nil_append, List.cons.injEq] at same
  obtain ⟨hcommand, hport, hsize, hdigest, hanswer⟩ := same
  have hnumber {m n : Nat} (digits : decimalDigits m = decimalDigits n) : m = n :=
    Text.decimal_injective (congrArg String.ofList digits)
  obtain rfl := UInt8.toNat_inj.mp (hnumber hcommand)
  obtain rfl := UInt16.toNat_inj.mp (hnumber hport)
  obtain rfl := hnumber hsize
  obtain rfl := String.toList_inj.mp hdigest
  cases answer <;> cases answer' <;> simp_all [String.toList_inj]

private theorem Plain.toBytes_eq_iff (plain : i.Plain) (plain' : j.Plain) :
    i.toBytes = j.toBytes ↔ i = j := by
  constructor
  · intro same
    apply eq_of_parts
    rw [← plain.pieces_text, ← plain'.pieces_text, Text.Utf8.ofString_injective same]
  · rintro rfl
    rfl

/-- Words that are read as an invitation: the command, the port and the size in decimal, the digest,
and the answer if there is one. -/
def ReadFrom (i : Invitation) (ws : List (List Char)) : Prop :=
  ∃ command port size, Text.readDecimal? command = some i.command.toNat ∧
    Text.readDecimal? port = some i.port.toNat ∧ Text.readDecimal? size = some i.size ∧
    ws = [command, port, size, i.digest.toList] ++ (i.answer.map String.toList).toList

private theorem readFrom_parts (i : Invitation) : i.ReadFrom i.parts :=
  ⟨_, _, _, Text.readDecimal?_decimalDigits _, Text.readDecimal?_decimalDigits _,
    Text.readDecimal?_decimalDigits _, rfl⟩

/-- The invitation to an image, with either digest of it, is four words, and five with the answer to
a challenge, and is read back from them. Another answer takes the place of the fifth word. No two
invitations without spaces in their digests and answers look the same. -/
theorem invitations_read_back :
    (∀ (command : UInt8) (port : UInt16) (image : Bytes),
      ∀ digest ∈ [md5Hex image, sha256Hex image],
      let i : Invitation := ⟨command, port, image.length, digest, none⟩
      (words i.text.toList).length = 4 ∧ i.ReadFrom (words i.text.toList) ∧
      ∀ password nonce,
        let answer := challengeAnswer password nonce
        (words (i.withAnswer answer).text.toList).length = 5 ∧
        (i.withAnswer answer).ReadFrom (words (i.withAnswer answer).text.toList) ∧
        words (i.withAnswer answer).text.toList = words i.text.toList ++ [answer.toList] ∧
        ∀ password' nonce',
          let other := challengeAnswer password' nonce'
          words ((i.withAnswer answer).withAnswer other).text.toList =
            words i.text.toList ++ [other.toList]) ∧
    ∀ i j : Invitation, i.Plain → j.Plain → (i.toBytes = j.toBytes ↔ i = j) := by
  refine ⟨fun command port image digest mem => ?_,
    fun i j plain plain' => plain.toBytes_eq_iff plain'⟩
  intro i
  have hdigest : IsWord i.digest.toList := by
    rcases List.mem_pair.mp mem with rfl | rfl
    · exact isWord_md5Hex image
    · exact isWord_sha256Hex image
  have hwords : words i.text.toList = i.parts := words_text hdigest nofun
  have hanswered (password nonce : String) :
      words (i.withAnswer (challengeAnswer password nonce)).text.toList =
        (i.withAnswer (challengeAnswer password nonce)).parts := by
    refine words_text hdigest ?_
    rintro _ ⟨⟩
    exact isWord_challengeAnswer password nonce
  refine ⟨by rw [hwords]; rfl, hwords ▸ i.readFrom_parts, fun password nonce => ?_⟩
  intro answer
  refine ⟨by rw [hanswered]; rfl, hanswered password nonce ▸ readFrom_parts _, ?_,
    fun password' nonce' => ?_⟩
  · rw [hanswered, hwords]
    rfl
  -- The second answer goes where the first one stood.
  · exact (hanswered password' nonce').trans (hwords ▸ rfl)

theorem invitations_read_back_blanks :
    let i : Invitation := ⟨0, 8080, 3, sha256Hex [1, 2, 3], none⟩
    let empty : Invitation := ⟨0, 8080, 3, "00ff", some ""⟩
    (words (i.withAnswer (challengeAnswer "" "1 2\n3")).text.toList).length = 5 ∧
      empty.Plain ∧ Plain { empty with answer := none } ∧
      empty.toBytes ≠ Invitation.toBytes { empty with answer := none } := by
  intro i empty
  obtain ⟨hread, hsame⟩ := invitations_read_back
  obtain ⟨-, -, hanswered⟩ := hread 0 8080 [1, 2, 3] (sha256Hex [1, 2, 3]) (by simp)
  have hplain : empty.Plain := ⟨by decide, by rintro _ ⟨⟩; decide⟩
  have hplain' : Plain { empty with answer := none } := ⟨by decide, nofun⟩
  exact ⟨(hanswered "" "1 2\n3").1, hplain, hplain',
    fun same => absurd ((hsame _ _ hplain hplain').mp same) (by decide)⟩

end Invitation

end RadioLink.Update

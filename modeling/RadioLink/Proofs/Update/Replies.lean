import RadioLink.Proofs.Text.Lossy
import RadioLink.Proofs.Text.Words
import RadioLink.Update.Invitation

/-!
What the replies of a device mean. A datagram is read by the text in it, without the white space
around that text: two texts are replies as they stand, a challenge is a word with the nonce behind
it, and any other text is kept.
-/

set_option autoImplicit false
set_option relaxedAutoImplicit false

namespace RadioLink.Update.Reply

open Text (IsWord Spaced Trims trim)
open Text.Utf8 (blanks lossy)

variable {text : List Char} {reply : Reply} {nonce : String}

/-- The text challenges with the nonce, which is its second word; any words may follow. -/
def Challenges (text : List Char) (nonce : String) : Prop :=
  ∃ more, Spaced text ("AUTH".toList :: nonce.toList :: more)

/-- What a text without blanks around it means as a reply. -/
inductive Means (text : List Char) : Reply → Prop
  | accepted (ok : text = "OK".toList) : Means text .accepted
  | erasing (erase : text = "ERASE".toList) : Means text .erasing
  | challenge {nonce : String} (challenges : Challenges text nonce) : Means text (.challenge nonce)
  | other {kept : String} (same : kept.toList = text) (notOk : text ≠ "OK".toList)
      (notErase : text ≠ "ERASE".toList) (never : ∀ nonce, ¬Challenges text nonce) :
      Means text (.other kept)

private theorem challenges_iff :
    Challenges text nonce ↔ ∃ more, Text.words text = "AUTH".toList :: nonce.toList :: more := by
  simp only [Challenges, Text.spaced_iff, eq_comm]

private theorem Challenges.isWord (challenges : Challenges text nonce) : IsWord nonce.toList := by
  obtain ⟨more, hspaced⟩ := challenges
  exact hspaced.isWord_of_mem (List.mem_cons_of_mem _ (List.mem_cons_self ..))

private theorem Challenges.nonce_eq {nonce' : String} (challenges : Challenges text nonce)
    (challenges' : Challenges text nonce') : nonce = nonce' := by
  obtain ⟨more, hwords⟩ := challenges_iff.mp challenges
  obtain ⟨more', hwords'⟩ := challenges_iff.mp challenges'
  have hcons := hwords.symm.trans hwords'
  rw [List.cons_inj_right] at hcons
  exact String.toList_inj.mp (List.cons.inj hcons).1

private theorem not_challenges (isWord : IsWord text) (nonce : String) :
    ¬Challenges text nonce := by
  intro challenges
  obtain ⟨more, hwords⟩ := challenges_iff.mp challenges
  rw [Text.words_of_isWord isWord] at hwords
  cases hwords

private theorem isWord_ok : IsWord "OK".toList := ⟨by decide, by simp [Text.isBlank]⟩

private theorem isWord_erase : IsWord "ERASE".toList := ⟨by decide, by simp [Text.isBlank]⟩

private theorem Means.unique {reply' : Reply} (means : Means text reply)
    (means' : Means text reply') : reply = reply' := by
  cases means with
  | accepted ok =>
    subst ok
    cases means' with
    | accepted => rfl
    | erasing erase => cases erase
    | challenge challenges => exact absurd challenges (not_challenges isWord_ok _)
    | other _ notOk => exact absurd rfl notOk
  | erasing erase =>
    subst erase
    cases means' with
    | accepted ok => cases ok
    | erasing => rfl
    | challenge challenges => exact absurd challenges (not_challenges isWord_erase _)
    | other _ _ notErase => exact absurd rfl notErase
  | challenge challenges =>
    cases means' with
    | accepted ok => exact absurd challenges (ok ▸ not_challenges isWord_ok _)
    | erasing erase => exact absurd challenges (erase ▸ not_challenges isWord_erase _)
    | challenge challenges' => rw [challenges.nonce_eq challenges']
    | other _ _ _ never => exact absurd challenges (never _)
  | other same notOk notErase never =>
    cases means' with
    | accepted ok => exact absurd ok notOk
    | erasing erase => exact absurd erase notErase
    | challenge challenges => exact absurd challenges (never _)
    | other same' => rw [String.toList_inj.mp (same.trans same'.symm)]

private theorem means_ofBytes (datagram : Bytes) :
    Means (trim (lossy datagram)) (ofBytes datagram) := by
  simp only [ofBytes]
  generalize trim (lossy datagram) = text
  by_cases hok : text = "OK".toList
  · rw [if_pos hok]
    exact .accepted hok
  by_cases herase : text = "ERASE".toList
  · rw [if_neg hok, if_pos herase]
    exact .erasing herase
  rw [if_neg hok, if_neg herase]
  have hother (never : ∀ nonce, ¬Challenges text nonce) :
      Means text (.other (String.ofList text)) := .other String.toList_ofList hok herase never
  split
  · rename_i first word more hwords
    by_cases hfirst : first = "AUTH".toList
    · rw [if_pos hfirst]
      exact .challenge (challenges_iff.mpr ⟨more, by simp [hwords, hfirst]⟩)
    · rw [if_neg hfirst]
      refine hother fun nonce challenges => ?_
      obtain ⟨more', hwords'⟩ := challenges_iff.mp challenges
      exact hfirst (List.cons.inj (hwords.symm.trans hwords')).1
  · rename_i few
    refine hother fun nonce challenges => ?_
    obtain ⟨more, hwords⟩ := challenges_iff.mp challenges
    exact few _ _ _ hwords

private theorem ofBytes_eq_iff (datagram : Bytes) :
    ofBytes datagram = reply ↔ Means (trim (lossy datagram)) reply := by
  constructor
  · rintro rfl
    exact means_ofBytes datagram
  · exact (means_ofBytes datagram).unique

private theorem means_accepted_iff : Means text .accepted ↔ text = "OK".toList :=
  ⟨fun | .accepted ok => ok, .accepted⟩

private theorem means_erasing_iff : Means text .erasing ↔ text = "ERASE".toList :=
  ⟨fun | .erasing erase => erase, .erasing⟩

private theorem means_challenge_iff : Means text (.challenge nonce) ↔ Challenges text nonce :=
  ⟨fun | .challenge challenges => challenges, .challenge⟩

private theorem means_other_iff {kept : String} : Means text (.other kept) ↔
    kept.toList = text ∧ text ≠ "OK".toList ∧ text ≠ "ERASE".toList ∧
      ∀ nonce, ¬Challenges text nonce :=
  ⟨fun | .other same notOk notErase never => ⟨same, notOk, notErase, never⟩,
    fun ⟨same, notOk, notErase, never⟩ => .other same notOk notErase never⟩

/-- A datagram is read by the text in it, with U+FFFD for each maximal part that is not UTF-8 and
without the white space around it. That the update is accepted or that the device is erasing is that
text as it stands; a challenge is a text of which the first word asks for an answer and the second
is the nonce, so no nonce is empty or holds a blank; of any other datagram the text is kept. White
space around a datagram changes nothing. -/
theorem ofBytes_classifies (datagram : Bytes) :
    let text := trim (lossy datagram)
    Trims (lossy datagram) text ∧
    (ofBytes datagram = .accepted ↔ text = "OK".toList) ∧
    (ofBytes datagram = .erasing ↔ text = "ERASE".toList) ∧
    (∀ nonce, ofBytes datagram = .challenge nonce ↔ Challenges text nonce) ∧
    (∀ nonce, ofBytes datagram = .challenge nonce → IsWord nonce.toList) ∧
    (∀ kept, ofBytes datagram = .other kept ↔
      kept.toList = text ∧ text ≠ "OK".toList ∧ text ≠ "ERASE".toList ∧
        ∀ nonce, ¬Challenges text nonce) ∧
    ∀ front back : Bytes, (∀ b ∈ front, b ∈ blanks) → (∀ b ∈ back, b ∈ blanks) →
      ofBytes (front ++ datagram ++ back) = ofBytes datagram := by
  intro text
  have hmeans (reply : Reply) : ofBytes datagram = reply ↔ Means text reply :=
    ofBytes_eq_iff datagram
  refine ⟨Text.trims_trim _, (hmeans _).trans means_accepted_iff,
    (hmeans _).trans means_erasing_iff, fun nonce => (hmeans _).trans means_challenge_iff,
    fun nonce challenged => ?_, fun kept => (hmeans _).trans means_other_iff,
    fun front back hfront hback => ?_⟩
  · exact (means_challenge_iff.mp ((hmeans _).mp challenged)).isWord
  · rw [ofBytes_eq_iff, Text.Utf8.trim_lossy_append hfront datagram hback]
    exact means_ofBytes datagram

/-- A character that is cut short at the end of a nonce is part of the nonce, and the line end
behind it is not. -/
theorem ofBytes_classifies_cutShort :
    let datagram : Bytes := [0x41, 0x55, 0x54, 0x48, 0x20, 0x35, 0x61, 0xe2, 0x82]
    (∀ b ∈ [9], b ∈ blanks) ∧ (∀ b ∈ [13, 10], b ∈ blanks) ∧
      ofBytes ([9] ++ datagram ++ [13, 10]) = .challenge "5a\ufffd" ∧
      IsWord "5a\ufffd".toList := by
  intro datagram
  obtain ⟨-, -, -, hchallenge, hword, -, haround⟩ := ofBytes_classifies datagram
  have hchallenged : ofBytes datagram = .challenge "5a\ufffd" :=
    (hchallenge _).mpr (challenges_iff.mpr ⟨[], by decide⟩)
  have hfront : ∀ b ∈ [9], b ∈ blanks := by simp [blanks]
  have hback : ∀ b ∈ [13, 10], b ∈ blanks := by simp [blanks]
  exact ⟨hfront, hback, (haround [9] [13, 10] hfront hback).trans hchallenged,
    hword _ hchallenged⟩

end RadioLink.Update.Reply

import RadioLink.Json.Record
import RadioLink.Proofs.Json.Values

/-!
Records that have been written are read back. An object of any members that their fields can read,
none of them twice, brings all of them into a record and leaves the rest of it as it was.
-/

set_option autoImplicit false
set_option relaxedAutoImplicit false

namespace RadioLink.Json

variable {σ : Type}

/-- A member of an object: the field that reads it, its written value, and what it brings into a
record. -/
structure Member (σ : Type) where
  field : Field σ
  value : List Char
  put : σ → σ

namespace Member

private def name (m : Member σ) : String := m.field.name

private def written (m : Member σ) : String × List Char := (m.name, m.value)

structure Sound (m : Member σ) (schema : Schema σ) : Prop where
  known : schema.fields.find? (·.name = m.name) = some m.field
  reads : ∀ record, Reads (m.field.read record) m.value (m.put record)

private def putAll (ms : List (Member σ)) (record : σ) : σ :=
  ms.foldl (fun record m => m.put record) record

end Member

private def writeMore (ms : List (String × List Char)) : List Char :=
  ms.flatMap fun m => ',' :: (writeString m.1.toList ++ ':' :: m.2)

private theorem writeMembers_cons (m : String × List Char) (ms : List (String × List Char)) :
    writeMembers (m :: ms) = writeString m.1.toList ++ ':' :: m.2 ++ writeMore ms := by
  induction ms generalizing m with
  | nil => simp [writeMembers, writeMore]
  | cons next ms ih =>
    rw [writeMembers, ih, writeMore, writeMore, List.flatMap_cons]
    · simp
    · simp

section Reading

variable {schema : Schema σ} {m : Member σ} {ms : List (Member σ)} {seen : List String}
  {record start : σ} {rest : List Char} {fuel : Nat} {first : Bool}

private theorem ends_writeMore (ms : List (String × List Char)) (rest : List Char) :
    Ends (writeMore ms ++ '\x7d' :: rest) := by
  cases ms with
  | nil => exact ends_cons (.inr (.inr rfl)) rest
  | cons m ms => exact ends_cons (.inl rfl) _

private theorem nextKey_close (first : Bool) (rest : List Char) :
    nextKey first ('\x7d' :: rest) = .ok (false, '\x7d' :: rest) := by
  rw [nextKey, bind_ok (peek_cons (by decide) _)]
  rfl

private theorem nextKey_first (rest : List Char) :
    nextKey true ('"' :: rest) = .ok (true, '"' :: rest) := by
  rw [nextKey, bind_ok (peek_cons (by decide) _)]
  rfl

private theorem nextKey_next (rest : List Char) :
    nextKey false (',' :: '"' :: rest) = .ok (true, '"' :: rest) := by
  rw [nextKey, bind_ok (peek_cons (by decide) _)]
  rfl

private theorem colon_cons (rest : List Char) : colon (':' :: rest) = .ok ((), rest) := by
  rw [colon, bind_ok (peek_cons (by decide) _)]
  rfl

private theorem members_close (schema : Schema σ) (fuel : Nat) (first : Bool) (seen : List String)
    (record : σ) (rest : List Char) :
    members schema (fuel + 1) first seen record ('\x7d' :: rest) =
      .ok ((seen, record), '\x7d' :: rest) := by
  rw [members, bind_ok (nextKey_close first rest)]
  rfl

private theorem members_member (sound : m.Sound schema) (fresh : m.name ∉ seen) (ends : Ends rest)
    {text : List Char}
    (key : nextKey first text = .ok (true, writeString m.name.toList ++ ':' :: m.value ++ rest)) :
    members schema (fuel + 1) first seen record text =
      members schema fuel false (m.name :: seen) (m.put record) rest := by
  have hfresh : seen.contains m.name = false := by simpa using fresh
  have hbody : stringBody (m.name.toList.flatMap escapedChar ++ '"' :: (':' :: m.value ++ rest)) =
      .ok (m.name, ':' :: m.value ++ rest) := by
    rw [stringBody_written, String.ofList_toList]
  rw [members, bind_ok key, List.append_assoc, writeString_append]
  refine (bind_ok rfl).trans ((bind_ok hbody).trans ?_)
  simp only [sound.known, hfresh]
  refine (bind_ok (colon_cons _)).trans (bind_ok ?_)
  exact sound.reads record rest ends

private theorem members_more (sound : ∀ m ∈ ms, m.Sound schema) (apart : (ms.map Member.name).Nodup)
    (fresh : ∀ m ∈ ms, m.name ∉ seen) (enough : ms.length < fuel) :
    members schema fuel false seen record (writeMore (ms.map Member.written) ++ '\x7d' :: rest) =
      .ok (((ms.map Member.name).reverse ++ seen, Member.putAll ms record), '\x7d' :: rest) := by
  induction ms generalizing seen record fuel with
  | nil =>
    obtain ⟨fuel, rfl⟩ : ∃ k, fuel = k + 1 := ⟨fuel - 1, by simp at enough; omega⟩
    exact members_close schema fuel false seen record rest
  | cons m ms ih =>
    obtain ⟨fuel, rfl⟩ : ∃ k, fuel = k + 1 := ⟨fuel - 1, by simp at enough; omega⟩
    obtain ⟨hm, hapart⟩ := List.nodup_cons.mp apart
    rw [members_member (sound m (List.mem_cons_self ..)) (fresh m (List.mem_cons_self ..))
      (ends_writeMore (ms.map Member.written) rest) ?_]
    · rw [ih (fun m mem => sound m (List.mem_cons_of_mem _ mem)) hapart ?_
        (Nat.lt_of_succ_lt_succ enough)]
      · simp [Member.putAll]
      · intro other mem
        refine List.not_mem_cons_of_ne_of_not_mem ?_ (fresh other (List.mem_cons_of_mem _ mem))
        exact fun hname => hm (hname ▸ List.mem_map_of_mem mem)
    · simp only [writeMore, List.map_cons, List.flatMap_cons, Member.written, List.cons_append,
        List.append_assoc, writeString_append]
      exact nextKey_next _

private theorem members_written (sound : ∀ m ∈ ms, m.Sound schema)
    (apart : (ms.map Member.name).Nodup) (enough : ms.length < fuel) :
    members schema fuel true [] record (writeMembers (ms.map Member.written) ++ '\x7d' :: rest) =
      .ok (((ms.map Member.name).reverse, Member.putAll ms record), '\x7d' :: rest) := by
  obtain ⟨fuel, rfl⟩ : ∃ k, fuel = k + 1 := ⟨fuel - 1, by omega⟩
  cases ms with
  | nil => exact members_close schema fuel true [] record rest
  | cons m ms =>
    obtain ⟨hm, hapart⟩ := List.nodup_cons.mp apart
    rw [members_member (sound m (List.mem_cons_self ..)) List.not_mem_nil
      (ends_writeMore (ms.map Member.written) rest) ?_]
    · rw [members_more (fun m mem => sound m (List.mem_cons_of_mem _ mem)) hapart ?_
        (Nat.lt_of_succ_lt_succ enough)]
      · simp [Member.putAll]
      · intro other mem
        refine List.not_mem_cons_of_ne_of_not_mem ?_ List.not_mem_nil
        exact fun hname => hm (hname ▸ List.mem_map_of_mem mem)
    · rw [List.map_cons, writeMembers_cons, Member.written, List.append_assoc, List.append_assoc,
        writeString_append]
      exact nextKey_first _

private theorem length_le_writeMembers (ms : List (String × List Char)) :
    ms.length ≤ (writeMembers ms).length := by
  have hmore (ms : List (String × List Char)) : ms.length ≤ (writeMore ms).length := by
    induction ms with
    | nil => exact Nat.zero_le _
    | cons m ms ih =>
      rw [writeMore, List.flatMap_cons, List.length_append, List.length_cons, List.length_cons]
      rw [writeMore] at ih
      omega
  cases ms with
  | nil => exact Nat.zero_le _
  | cons m ms =>
    have htail := hmore ms
    simp only [writeMembers_cons, List.length_append, List.length_cons]
    omega

private theorem missing?_eq_none (required : ∀ field ∈ schema.fields, field.required = true →
      field.name ∈ seen) : schema.missing? seen = none := by
  rw [Schema.missing?, Option.map_eq_none_iff, List.find?_eq_none]
  intro field mem hmissing
  obtain ⟨hrequired, hunseen⟩ := Bool.and_eq_true_iff.mp hmissing
  have hseen : seen.contains field.name = true := by
    simpa using required field mem hrequired
  rw [hseen] at hunseen
  cases hunseen

private theorem reads_record (sound : ∀ m ∈ ms, m.Sound schema) (apart : (ms.map Member.name).Nodup)
    (required : ∀ field ∈ schema.fields, field.required = true → field.name ∈ ms.map Member.name)
    (start : σ) :
    Reads (Json.record schema start) (writeObject (ms.map Member.written))
      (Member.putAll ms start) := by
  intro rest _
  have hopen : writeObject (ms.map Member.written) ++ rest =
      '\x7b' :: (writeMembers (ms.map Member.written) ++ '\x7d' :: rest) := by simp [writeObject]
  have henough : ms.length <
      (writeMembers (ms.map Member.written) ++ '\x7d' :: rest).length + 1 := by
    have hlength := length_le_writeMembers (ms.map Member.written)
    rw [List.length_map] at hlength
    rw [List.length_append]
    omega
  have hmissing : schema.missing? (ms.map Member.name).reverse = none :=
    missing?_eq_none fun field mem hrequired =>
      List.mem_reverse.mpr (required field mem hrequired)
  rw [hopen, record, bind_ok (peek_cons (by decide) _)]
  refine (bind_ok rfl).trans ((bind_ok rfl).trans ?_)
  refine (bind_ok (members_written sound apart henough)).trans ?_
  simp only [hmissing]
  rfl

end Reading

/-! ### Records of which only some is written -/

theorem reads_put {α : Type} {read : Reader α} {value : List Char} {a : α} (h : Reads read value a)
    (put : α → σ) : Reads (do return put (← read)) value (put a) := fun rest ends =>
  (bind_ok (h rest ends)).trans rfl

private theorem known_of_mem {schema : Schema σ} {field : Field σ}
    (apart : (schema.fields.map (·.name)).Nodup) (mem : field ∈ schema.fields) :
    schema.fields.find? (·.name = field.name) = some field := by
  obtain ⟨front, back, hfields⟩ := List.append_of_mem mem
  rw [hfields, List.map_append, List.map_cons, List.nodup_append] at apart
  have hfront : front.find? (·.name = field.name) = none := by
    rw [List.find?_eq_none]
    intro other hother hname
    exact apart.2.2 other.name (List.mem_map_of_mem hother) field.name (List.mem_cons_self ..)
      (of_decide_eq_true hname)
  rw [hfields, List.find?_append, hfront, List.find?_cons_of_pos (by simp)]
  rfl

/-- A way to pick the fields of some names from one record and the others from another. -/
structure Picks (names : List String) (pick : (String → Bool) → σ → σ → σ) : Prop where
  none : ∀ c d, pick (fun _ => false) c d = d
  or : ∀ f g c d, pick f c (pick g c d) = pick (fun name => f name || g name) c d
  only : ∀ f g c d, (∀ name ∈ names, f name = g name) → pick f c d = pick g c d

theorem pick_or {α : Type} (f g : Bool) (a b : α) :
    (if f then a else if g then a else b) = if f || g then a else b := by
  cases f <;> rfl

variable {pick : (String → Bool) → σ → σ → σ} {names : List String}

private theorem Picks.foldl (picks : Picks names pick) (keep : String → Bool) (chosen : List String)
    (c d : σ) :
    chosen.foldl (fun r name => if keep name then pick (· = name) c r else r) d =
      pick (fun name => keep name && decide (name ∈ chosen)) c d := by
  induction chosen generalizing d with
  | nil =>
    refine ((picks.only _ _ c d fun name _ => ?_).trans (picks.none c d)).symm
    simp
  | cons first chosen ih =>
    rw [List.foldl_cons, ih]
    split_ifs with hfirst
    · rw [picks.or]
      refine picks.only _ _ c d fun name _ => ?_
      by_cases hname : name = first
      · simp [hname, hfirst]
      · simp [hname]
    · refine picks.only _ _ c d fun name _ => ?_
      by_cases hname : name = first
      · simp [hname, hfirst]
      · simp [hname]

private theorem Picks.foldl_all (picks : Picks names pick) (keep : String → Bool) (c d : σ) :
    names.foldl (fun r name => if keep name then pick (· = name) c r else r) d = pick keep c d := by
  rw [picks.foldl]
  refine picks.only _ _ c d fun name hname => ?_
  simp [hname]

private theorem map_zip_written {fields : List (Field σ)} {written : List (String × List Char)}
    (names : written.map Prod.fst = fields.map (·.name)) :
    (fields.zip written).map (fun p => (p.1.name, p.2.2)) = written := by
  induction fields generalizing written with
  | nil => exact (List.map_eq_nil_iff.mp names).symm
  | cons field fields ih =>
    cases written with
    | nil => cases names
    | cons w written =>
      obtain ⟨hname, hnames⟩ := List.cons.inj names
      rw [List.zip_cons_cons, List.map_cons, ih hnames]
      exact congrArg (fun name => (name, w.2) :: written) hname.symm

namespace Member

private def picked (pick : (String → Bool) → σ → σ → σ) (c : σ) (p : Field σ × String × List Char) :
    Member σ :=
  ⟨p.1, p.2.2, pick (· = p.1.name) c⟩

private theorem putAll_picked (picks : Picks names pick) {ps : List (Field σ × String × List Char)}
    (all : ps.map (·.1.name) = names) (keep : String → Bool) (c start : σ) :
    putAll ((ps.map (picked pick c)).filter (keep ·.name)) start = pick keep c start := by
  rw [← picks.foldl_all keep c start, ← all, putAll, List.foldl_filter, List.foldl_map,
    List.foldl_map]
  rfl

end Member

/-- A record that is written field by field, and of which some fields that are not required are left
out, is read as the others picked from it. -/
theorem reads_picked (schema : Schema σ) (apart : (schema.fields.map (·.name)).Nodup)
    (keep : String → Bool)
    (required : ∀ field ∈ schema.fields, field.required = true → keep field.name = true)
    (picks : Picks (schema.fields.map (·.name)) pick) {written : List (String × List Char)}
    (names : written.map Prod.fst = schema.fields.map (·.name)) {c : σ}
    (reads : ∀ p ∈ schema.fields.zip written, ∀ record,
      Reads (p.1.read record) p.2.2 (pick (· = p.1.name) c record)) (start : σ) :
    Reads (Json.record schema start) (writeObject (written.filter (keep ·.1)))
      (pick keep c start) := by
  let ms : List (Member σ) := (schema.fields.zip written).map (Member.picked pick c)
  have hlength : schema.fields.length ≤ written.length := by
    have hlength := congrArg List.length names
    simp only [List.length_map] at hlength
    exact Nat.le_of_eq hlength.symm
  have hnames : (schema.fields.zip written).map (·.1.name) = schema.fields.map (·.name) := by
    conv_rhs => rw [← List.map_fst_zip hlength, List.map_map]
    rfl
  have hwritten : written.filter (keep ·.1) = (ms.filter (keep ·.name)).map Member.written := by
    conv_lhs => rw [← map_zip_written names, List.filter_map]
    rw [List.filter_map, List.map_map]
    rfl
  have hsound : ∀ m ∈ ms.filter (keep ·.name), m.Sound schema := by
    intro m hm
    obtain ⟨p, hp, rfl⟩ := List.mem_map.mp (List.mem_filter.mp hm).1
    exact ⟨known_of_mem apart (List.of_mem_zip hp).1, reads p hp⟩
  have hall : ms.map Member.name = schema.fields.map (·.name) := by
    rw [← hnames, List.map_map]
    rfl
  have hapart : ((ms.filter (keep ·.name)).map Member.name).Nodup :=
    (hall ▸ apart).sublist (List.filter_sublist.map _)
  have hrequired : ∀ field ∈ schema.fields, field.required = true →
      field.name ∈ (ms.filter (keep ·.name)).map Member.name := by
    intro field mem hfield
    have hname : field.name ∈ ms.map Member.name := hall ▸ List.mem_map_of_mem mem
    obtain ⟨m, hm, hsame⟩ := List.mem_map.mp hname
    have hkept : keep m.name = true := hsame ▸ required field mem hfield
    exact List.mem_map.mpr ⟨m, List.mem_filter.mpr ⟨hm, hkept⟩, hsame⟩
  rw [hwritten, ← Member.putAll_picked picks hnames keep c start]
  exact reads_record hsound hapart hrequired start

end RadioLink.Json

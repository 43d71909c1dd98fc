import RadioLink.Proofs.Text.Digits
import RadioLink.Proofs.Text.Trimming
import RadioLink.Transport

/-!
Strings that name a target. A string is accepted if it spells a target, as a host or as a host and
the digits of a port, with nothing around it but blanks, and refused otherwise. The normal form of
an accepted target spells that target again, so the device of a string entered by hand is dialled
where the string says, and no two targets have one normal form.
-/

set_option autoImplicit false
set_option relaxedAutoImplicit false

namespace RadioLink

namespace Target

/-- How a target is written: as its host, if the default port is meant, or as its host and the
digits of its port behind a colon. The host is not empty and has no colon; there may be zeros in
front of the port. -/
inductive Spelled (defaultPort : UInt16) : List Char → Target → Prop where
  | host (name : List Char) (named : name ≠ []) (plain : ':' ∉ name) :
    Spelled defaultPort name ⟨String.ofList name, defaultPort⟩
  | hostAndPort (name digits : List Char) (port : UInt16) (named : name ≠ []) (plain : ':' ∉ name)
    (written : digits ≠ []) (decimal : ∀ c ∈ digits, '0' ≤ c ∧ c ≤ '9')
    (value : Nat.ofDigits 10 (digits.reverse.map fun c => c.toNat - '0'.toNat) = port.toNat) :
    Spelled defaultPort (name ++ ':' :: digits) ⟨String.ofList name, port⟩

/-- What the targets of accepted strings have in common. Their hosts may end in a blank, as that of
`radio :80` does, but begin with none. -/
structure WellFormed (target : Target) : Prop where
  named : target.host.toList ≠ []
  plain : ':' ∉ target.host.toList
  unindented : ∀ c ∈ target.host.toList.head?, Text.isBlank c = false

variable {input : String} {text : List Char} {defaultPort port : UInt16} {target other : Target}

/-! ### Ports -/

private theorem readPort?_eq_some_iff : readPort? text = some port ↔
    text ≠ [] ∧ (∀ c ∈ text, '0' ≤ c ∧ c ≤ '9') ∧
      Nat.ofDigits 10 (text.reverse.map fun c => c.toNat - '0'.toNat) = port.toNat := by
  simp only [← Text.decimalValue_eq_ofDigits, ← Text.isDecimalDigit_iff]
  rw [readPort?, Option.bind_eq_some_iff]
  constructor
  · rintro ⟨n, hread, hport⟩
    obtain ⟨hsome, hdigits, rfl⟩ := Text.readDecimal?_eq_some_iff.mp hread
    split_ifs at hport with hsmall
    obtain rfl := Option.some.inj hport
    exact ⟨hsome, hdigits, (UInt16.toNat_ofNat_of_lt hsmall).symm⟩
  · rintro ⟨hsome, hdigits, hvalue⟩
    refine ⟨port.toNat, Text.readDecimal?_eq_some_iff.mpr ⟨hsome, hdigits, hvalue⟩, ?_⟩
    rw [if_pos port.toNat_lt, UInt16.ofNat_toNat]

/-! ### Spelling -/

private theorem ofTrimmed?_of_spelled (spelled : Spelled defaultPort text target) :
    ofTrimmed? text defaultPort = some target := by
  cases spelled with
  | host name named plain =>
    rw [ofTrimmed?, Text.pieces_of_not_mem plain]
    simp [named]
  | hostAndPort name digits port named plain written decimal value =>
    have hport : readPort? digits = some port :=
      readPort?_eq_some_iff.mpr ⟨written, decimal, value⟩
    have hplain : ':' ∉ digits := fun mem => absurd (decimal ':' mem) (by decide)
    rw [ofTrimmed?, Text.pieces_append, Text.pieces_of_not_mem plain, Text.pieces_of_not_mem hplain]
    simp [named, hport]

private theorem spelled_of_ofTrimmed? (read : ofTrimmed? text defaultPort = some target) :
    Spelled defaultPort text target := by
  have hwhole : [':'].intercalate (Text.pieces ':' text) = text := by
    rw [Text.pieces_eq_splitOn]
    exact List.intercalate_splitOn ':'
  have hplain : ∀ piece ∈ Text.pieces ':' text, ':' ∉ piece := fun _ =>
    Text.not_mem_of_mem_pieces
  rw [ofTrimmed?] at read
  split at read
  case h_1 name hpieces =>
    rw [hpieces] at hwhole hplain
    obtain rfl : name = text := by simpa using hwhole
    split_ifs at read with hempty
    obtain rfl := Option.some.inj read
    exact .host name (by simpa using hempty) (hplain name (List.mem_cons_self ..))
  case h_2 name digits hpieces =>
    rw [hpieces] at hwhole hplain
    obtain rfl : name ++ ':' :: digits = text := by simpa using hwhole
    split_ifs at read with hempty
    obtain ⟨port, hport, rfl⟩ := Option.map_eq_some_iff.mp read
    obtain ⟨hsome, hdigits, hvalue⟩ := readPort?_eq_some_iff.mp hport
    exact .hostAndPort name digits port (by simpa using hempty)
      (hplain name (List.mem_cons_self ..)) hsome hdigits hvalue
  case h_3 => cases read

private theorem ofTrimmed?_eq_some_iff :
    ofTrimmed? text defaultPort = some target ↔ Spelled defaultPort text target :=
  ⟨spelled_of_ofTrimmed?, ofTrimmed?_of_spelled⟩

private theorem parse_eq_ok_iff : parse input defaultPort = .ok target ↔
    Spelled defaultPort (Text.trim input.toList) target := by
  rw [← ofTrimmed?_eq_some_iff, parse]
  cases ofTrimmed? (Text.trim input.toList) defaultPort <;> simp

private theorem parse_eq_error_iff {error : LinkError} : parse input defaultPort = .error error ↔
    error = .invalidConnectionString input ∧
      ∀ target, ¬ Spelled defaultPort (Text.trim input.toList) target := by
  simp only [← ofTrimmed?_eq_some_iff, parse]
  cases ofTrimmed? (Text.trim input.toList) defaultPort <;> simp [eq_comm]

/-- A string is accepted as a target exactly if it is a spelling of that target with blanks around
it, and the one error for all others carries the string as it was given. -/
theorem parse_accepts_spelled (input : String) (defaultPort : UInt16) :
    (∀ target, parse input defaultPort = .ok target ↔
      ∃ text, Text.Trims input.toList text ∧ Spelled defaultPort text target) ∧
    ∀ error, parse input defaultPort = .error error ↔ error = .invalidConnectionString input ∧
      ¬ ∃ text target, Text.Trims input.toList text ∧ Spelled defaultPort text target := by
  constructor
  · intro target
    rw [parse_eq_ok_iff]
    simp only [Text.trims_iff, exists_eq_left]
  · intro error
    rw [parse_eq_error_iff]
    simp only [Text.trims_iff, exists_and_left, exists_eq_left, not_exists]

example : parse " radio:+80" 4403 = .error (.invalidConnectionString " radio:+80") := by
  decide +kernel

/-! ### Normal forms -/

private theorem toList_normalized (target : Target) : target.normalized.toList =
    target.host.toList ++ ':' :: Text.decimalDigits target.port.toNat := by
  simp [normalized, Text.decimal]

private theorem Spelled.wellFormed (spelled : Spelled defaultPort text target)
    (bare : Text.Bare text) : target.WellFormed := by
  cases spelled with
  | host name named plain =>
    refine ⟨?_, ?_, ?_⟩ <;> rw [String.toList_ofList]
    · exact named
    · exact plain
    · exact bare.first
  | hostAndPort name digits port named plain =>
    refine ⟨?_, ?_, ?_⟩ <;> rw [String.toList_ofList]
    · exact named
    · exact plain
    · cases name with
      | nil => exact absurd rfl named
      | cons c name => exact bare.first

private theorem wellFormed_of_parse (accepted : parse input defaultPort = .ok target) :
    target.WellFormed :=
  (parse_eq_ok_iff.mp accepted).wellFormed (Text.trims_trim _).bare

private theorem WellFormed.spelled_normalized (well : target.WellFormed) (defaultPort : UInt16) :
    Spelled defaultPort target.normalized.toList target := by
  have hdigits : ∀ c ∈ Text.decimalDigits target.port.toNat, '0' ≤ c ∧ c ≤ '9' := fun _ mem =>
    Text.isDecimalDigit_iff.mp (Text.isDecimalDigit_of_mem mem)
  have hvalue := Text.decimalValue_decimalDigits target.port.toNat
  rw [Text.decimalValue_eq_ofDigits] at hvalue
  have hspelled : Spelled defaultPort
      (target.host.toList ++ ':' :: Text.decimalDigits target.port.toNat)
      ⟨String.ofList target.host.toList, target.port⟩ :=
    .hostAndPort _ _ _ well.named well.plain (Text.decimalDigits_ne_nil _) hdigits hvalue
  rw [String.ofList_toList] at hspelled
  rw [toList_normalized]
  exact hspelled

private theorem WellFormed.bare_normalized (well : target.WellFormed) :
    Text.Bare target.normalized.toList := by
  rw [toList_normalized]
  constructor
  · intro c hc
    obtain ⟨first, rest, hhost⟩ := List.exists_cons_of_ne_nil well.named
    have hfirst := well.unindented
    rw [hhost] at hc hfirst
    exact hfirst c hc
  · intro c hc
    have hsome := Text.decimalDigits_ne_nil target.port.toNat
    rw [List.getLast?_append_of_ne_nil _ (List.cons_ne_nil _ _),
      List.getLast?_cons_of_ne_nil hsome] at hc
    have hdigit := Text.isDecimalDigit_of_mem (List.mem_of_getLast? hc)
    exact Text.isBlank_of_isDecimalDigit hdigit

theorem WellFormed.parse_normalized (well : target.WellFormed) (defaultPort : UInt16) :
    parse target.normalized defaultPort = .ok target := by
  rw [parse_eq_ok_iff, well.bare_normalized.trim_eq]
  exact well.spelled_normalized defaultPort

private theorem normalized_eq_iff :
    target.normalized = other.normalized ↔ target.host = other.host ∧ target.port = other.port := by
  rw [normalized, normalized,
    Text.append_colon_inj (Text.colon_not_mem_decimal _) (Text.colon_not_mem_decimal _),
    Text.decimal_port_eq_iff]

end Target

/-! ### Devices of strings entered by hand -/

namespace Transport

variable {config : Config.Tcp} {device : Device} {target : Target}

theorem tcpTarget_of_parse (medium : device.medium = .tcp)
    (read : Target.parse device.identifier config.defaultPort = .ok target) :
    tcpTarget config device = .ok target := by
  rw [tcpTarget, if_neg (not_not_intro medium), read]

/-- The device of an accepted string has an identifier that is derived from the normal form of the
string's target, and it is dialled at that target. The normal form is read as the target by
everyone, and two accepted strings have one normal form exactly if they name one host and port. -/
theorem manual_device_dials (config : Config.Tcp) {input : String} {target : Target}
    (accepted : Target.parse input config.defaultPort = .ok target) :
    (∀ port, Target.parse target.normalized port = .ok target) ∧
    (∃ device, tcpManualDevice? config input = some device ∧
      device.id = .ofText target.normalized ∧ tcpTarget config device = .ok target) ∧
    ∀ other port otherTarget, Target.parse other port = .ok otherTarget →
      (target.normalized = otherTarget.normalized ↔
        target.host = otherTarget.host ∧ target.port = otherTarget.port) := by
  have hwell : target.WellFormed := Target.wellFormed_of_parse accepted
  refine ⟨hwell.parse_normalized, ?_, fun _ _ _ _ => Target.normalized_eq_iff⟩
  have hentered : Target.parse (Text.trimmed input) config.defaultPort = .ok target := by
    rw [Target.parse_eq_ok_iff] at accepted ⊢
    rw [Text.trimmed, String.toList_ofList, Text.trim_trim]
    exact accepted
  have hmanual : Device.manual input config.defaultPort = .ok ⟨.ofText target.normalized,
      Text.trimmed input ++ " (Manual)", .tcp, Text.trimmed input, true, none⟩ := by
    rw [Device.manual, accepted]
    rfl
  refine ⟨_, congrArg Except.toOption hmanual, rfl, ?_⟩
  exact tcpTarget_of_parse rfl hentered

theorem manual_device_dials_padded :
    let target : Target := ⟨"my radio", 4403⟩
    let other : Target := ⟨"my radio", 80⟩
    Target.parse " my radio:04403\n" 4403 = .ok target ∧ Target.parse "my radio" 80 = .ok other ∧
    Target.parse "my radio:4403" 80 = .ok target ∧
    (∃ device, tcpManualDevice? {} " my radio:04403\n" = some device ∧
      device.id = .ofText "my radio:4403" ∧ tcpTarget {} device = .ok target) ∧
    "my radio:4403" ≠ other.normalized := by
  intro target other
  have haccepted : Target.parse " my radio:04403\n" 4403 = .ok target := by decide +kernel
  have hother : Target.parse "my radio" 80 = .ok other := by decide +kernel
  have hnormal : target.normalized = "my radio:4403" := by decide +kernel
  obtain ⟨hread, hdevice, hapart⟩ := manual_device_dials {} haccepted
  rw [hnormal] at hread hdevice hapart
  refine ⟨haccepted, hother, hread 80, hdevice, fun hsame => ?_⟩
  have hport := ((hapart _ _ _ hother).mp hsame).2
  exact absurd hport (by decide)

end Transport

end RadioLink

import TabPruning.Config.Json
import TabPruning.Proofs.Json.Printing
import TabPruning.Proofs.Json.Records

namespace TabPruning

namespace Json

-- There is at most one value, and it says something.
structure Legible (decode : Json → Option α) (vs : List Json) : Prop where
  once    : vs.length ≤ 1
  decodes : ∀ v ∈ vs, (decode v).isSome

-- What a single value says, or the default if there is none.
def settled (decode : Json → Option α) (default : α) (vs : List Json) : α :=
  (vs.head?.bind decode).getD default

theorem Legible.settle?_eq {decode : Json → Option α} {vs : List Json} (h : Legible decode vs)
    (default : α) : settle? decode default vs = some (settled decode default vs) := by
  obtain ⟨once, decodes⟩ := h
  match vs with
  | []          => rfl
  | [v]         =>
    have ⟨a, ha⟩ := Option.isSome_iff_exists.mp <| decodes v List.mem_cons_self
    simp [settle?, settled, ha]
  | _ :: _ :: _ => simp at once

theorem settle?_of_repeated {vs : List Json} (h : 1 < vs.length) (decode : Json → Option α)
    (default : α) : settle? decode default vs = none := by
  match vs with
  | _ :: _ :: _ => rfl

theorem settle?_of_mem {decode : Json → Option α} {v : Json} {vs : List Json} (hv : v ∈ vs)
    (h : decode v = none) (default : α) : settle? decode default vs = none := by
  match vs with
  | [w]         =>
    rw [List.mem_singleton] at hv
    rw [settle?, ← hv, h]
  | _ :: _ :: _ => rfl

theorem members?_list {keys : List String} {vs : List Json} (h : vs.length ≤ keys.length) :
    (list vs).members? keys = (object ((keys.map String.toList).zip vs)).members? keys :=
  if_pos h

end Json

open Json

namespace OutputConfig

def keys : List String :=
  ["write_mode", "dry_run"]

def writeMode? : Json → Option WriteMode :=
  variant? WriteMode.ofName?

def ofMembers? (ms : List (List Char × Json)) : Option OutputConfig := do
  let writeMode ← settle? writeMode? .atomic (valuesOf ms "write_mode")
  let dryRun ← settle? bool? false (valuesOf ms "dry_run")
  return { writeMode, dryRun }

def ofJson? (v : Json) : Option OutputConfig :=
  (v.members? keys).bind ofMembers?

structure Readable (ms : List (List Char × Json)) : Prop where
  writeMode : Legible writeMode? (valuesOf ms "write_mode")
  dryRun    : Legible bool? (valuesOf ms "dry_run")

def settled (ms : List (List Char × Json)) : OutputConfig where
  writeMode := Json.settled writeMode? .atomic (valuesOf ms "write_mode")
  dryRun    := Json.settled bool? false (valuesOf ms "dry_run")

def writeModeSlot : Slot Draft where
  Value          := WriteMode
  field          := writeModeField
  value?         := Draft.writeMode
  put m d        := { d with writeMode := some m }
  decode         := writeMode?
  filled_eq _    := rfl
  value?_put _ _ := rfl
  decodes        := (Decodes.enumeration _ _).map

def dryRunSlot : Slot Draft where
  Value          := Bool
  field          := dryRunField
  value?         := Draft.dryRun
  put b d        := { d with dryRun := some b }
  decode         := bool?
  filled_eq _    := rfl
  value?_put _ _ := rfl
  decodes        := Decodes.bool.map

def slots : List (Slot Draft) :=
  [writeModeSlot, dryRunSlot]

theorem slots_apart : slots.Pairwise Slot.Apart :=
  List.pairwise_pair.mpr ⟨by decide, fun _ _ => rfl, fun _ _ => rfl⟩

theorem slots_unfilled : ∀ slot ∈ slots, slot.value? {} = none := by
  simp [slots, writeModeSlot, dryRunSlot]

-- Both fields are settled on their own.
theorem fillMembers?_slots (ms : List (List Char × Json)) :
    (fillMembers? slots {} ms).map Draft.complete = ofMembers? ms := by
  have h := fillMembers?_settles slots_apart {} ms
  generalize fillMembers? slots {} ms = d? at h ⊢
  cases d?
  case none =>
    have ⟨slot, hs, h⟩ := h.settle?_eq_none slots_unfilled
    simp only [slots, List.mem_cons, List.not_mem_nil, or_false] at hs
    obtain rfl | rfl := hs
    · have hw : settle? writeMode? .atomic (valuesOf ms "write_mode") = none := h _
      simp [ofMembers?, hw]
    · have hd : settle? bool? false (valuesOf ms "dry_run") = none := h _
      simp [ofMembers?, hd]
  case some d =>
    have h (slot : Slot Draft) (hs : slot ∈ slots) :=
      h.settle?_eq_some hs (slots_unfilled slot hs)
    have hw : settle? writeMode? .atomic (valuesOf ms "write_mode") =
        some (d.writeMode.getD .atomic) := h writeModeSlot (by simp [slots]) _
    have hd : settle? bool? false (valuesOf ms "dry_run") =
        some (d.dryRun.getD false) := h dryRunSlot (by simp [slots]) _
    rw [ofMembers?, hw, hd]
    rfl

theorem decodes_scan : Decodes scan ofJson? :=
  .completed rfl slots_apart slots_unfilled fillMembers?_slots

theorem Readable.ofMembers?_eq {ms : List (List Char × Json)} (h : Readable ms) :
    ofMembers? ms = some (settled ms) := by
  rw [ofMembers?, h.writeMode.settle?_eq, h.dryRun.settle?_eq]
  rfl

theorem ofMembers?_of_repeated {ms : List (List Char × Json)} {key : String} (hk : key ∈ keys)
    (h : 1 < (valuesOf ms key).length) : ofMembers? ms = none := by
  simp only [keys, List.mem_cons, List.not_mem_nil, or_false] at hk
  obtain rfl | rfl := hk <;> simp [ofMembers?, settle?_of_repeated h]

end OutputConfig

namespace Config

def keys : List String :=
  ["markers", "field_patterns", "output", "log_level"]

def markers? : Json → Option (List Marker) :=
  list? (variant? Marker.ofTabName?)

def fields? : Json → Option (List String) :=
  list? string?

def logLevel? : Json → Option LogLevel :=
  variant? LogLevel.ofName?

def ofMembers? (ms : List (List Char × Json)) : Option Config := do
  let markers ← settle? markers? Marker.all (valuesOf ms "markers")
  let fields ← settle? fields? defaultFields (valuesOf ms "field_patterns")
  let output ← settle? OutputConfig.ofJson? {} (valuesOf ms "output")
  let logLevel ← settle? logLevel? .info (valuesOf ms "log_level")
  return { markers, fields, output, logLevel }

def ofJson? (v : Json) : Option Config :=
  (v.members? keys).bind ofMembers?

structure Readable (ms : List (List Char × Json)) : Prop where
  markers  : Legible markers? (valuesOf ms "markers")
  fields   : Legible fields? (valuesOf ms "field_patterns")
  output   : Legible OutputConfig.ofJson? (valuesOf ms "output")
  logLevel : Legible logLevel? (valuesOf ms "log_level")

def settled (ms : List (List Char × Json)) : Config where
  markers  := Json.settled markers? Marker.all (valuesOf ms "markers")
  fields   := Json.settled fields? defaultFields (valuesOf ms "field_patterns")
  output   := Json.settled OutputConfig.ofJson? {} (valuesOf ms "output")
  logLevel := Json.settled logLevel? .info (valuesOf ms "log_level")

def markersSlot : Slot Draft where
  Value          := List Marker
  field          := markersField
  value?         := Draft.markers
  put ms d       := { d with markers := some ms }
  decode         := markers?
  filled_eq _    := rfl
  value?_put _ _ := rfl
  decodes        := (Decodes.enumeration _ _).list.map

def fieldsSlot : Slot Draft where
  Value          := List String
  field          := fieldsField
  value?         := Draft.fields
  put names d    := { d with fields := some names }
  decode         := fields?
  filled_eq _    := rfl
  value?_put _ _ := rfl
  decodes        := (Decodes.string _).list.map

def outputSlot : Slot Draft where
  Value          := OutputConfig
  field          := outputField
  value?         := Draft.output
  put o d        := { d with output := some o }
  decode         := OutputConfig.ofJson?
  filled_eq _    := rfl
  value?_put _ _ := rfl
  decodes        := OutputConfig.decodes_scan.map

def logLevelSlot : Slot Draft where
  Value          := LogLevel
  field          := logLevelField
  value?         := Draft.logLevel
  put l d        := { d with logLevel := some l }
  decode         := logLevel?
  filled_eq _    := rfl
  value?_put _ _ := rfl
  decodes        := (Decodes.enumeration _ _).map

def slots : List (Slot Draft) :=
  [markersSlot, fieldsSlot, outputSlot, logLevelSlot]

theorem slots_apart : slots.Pairwise Slot.Apart := by
  simp only [slots, List.pairwise_cons, List.forall_mem_cons, List.not_mem_nil, false_implies,
    implies_true, and_true, List.Pairwise.nil]
  refine ⟨⟨?_, ?_, ?_⟩, ⟨?_, ?_⟩, ?_⟩ <;> exact ⟨by decide, fun _ _ => rfl, fun _ _ => rfl⟩

theorem slots_unfilled : ∀ slot ∈ slots, slot.value? {} = none := by
  simp [slots, markersSlot, fieldsSlot, outputSlot, logLevelSlot]

-- The four fields are settled on their own.
theorem fillMembers?_slots (ms : List (List Char × Json)) :
    (fillMembers? slots {} ms).map Draft.complete = ofMembers? ms := by
  have h := fillMembers?_settles slots_apart {} ms
  generalize fillMembers? slots {} ms = d? at h ⊢
  cases d?
  case none =>
    have ⟨slot, hs, h⟩ := h.settle?_eq_none slots_unfilled
    simp only [slots, List.mem_cons, List.not_mem_nil, or_false] at hs
    obtain rfl | rfl | rfl | rfl := hs
    · have hm : settle? markers? Marker.all (valuesOf ms "markers") = none := h _
      simp [ofMembers?, hm]
    · have hf : settle? fields? defaultFields (valuesOf ms "field_patterns") = none := h _
      simp [ofMembers?, hf]
    · have ho : settle? OutputConfig.ofJson? {} (valuesOf ms "output") = none := h _
      simp [ofMembers?, ho]
    · have hl : settle? logLevel? .info (valuesOf ms "log_level") = none := h _
      simp [ofMembers?, hl]
  case some d =>
    have h (slot : Slot Draft) (hs : slot ∈ slots) :=
      h.settle?_eq_some hs (slots_unfilled slot hs)
    have hm : settle? markers? Marker.all (valuesOf ms "markers") =
        some (d.markers.getD Marker.all) := h markersSlot (by simp [slots]) _
    have hf : settle? fields? defaultFields (valuesOf ms "field_patterns") =
        some (d.fields.getD defaultFields) := h fieldsSlot (by simp [slots]) _
    have ho : settle? OutputConfig.ofJson? {} (valuesOf ms "output") =
        some (d.output.getD {}) := h outputSlot (by simp [slots]) _
    have hl : settle? logLevel? .info (valuesOf ms "log_level") =
        some (d.logLevel.getD .info) := h logLevelSlot (by simp [slots]) _
    rw [ofMembers?, hm, hf, ho, hl]
    rfl

theorem decodes_scan : Decodes scan ofJson? :=
  .completed rfl slots_apart slots_unfilled fillMembers?_slots

-- A text is read as what its value stands for, and as nothing else.
theorem ofText_eq_ok_iff {v : Json} {text : String} {c : Config}
    (h : DocumentText v text.toList) : ofText text = .ok c ↔ ofJson? v = some c := by
  have h : (ofText text).toOption = ofJson? v := decodes_scan.document h
  rw [← h]
  cases ofText text <;> simp [Except.toOption]

theorem ofText_fails {v : Json} {text : String} (h : DocumentText v text.toList)
    (hv : ofJson? v = none) : ∃ f, ofText text = .error f := by
  cases hc : ofText text
  case error f => exact ⟨f, rfl⟩
  case ok c    =>
    rw [ofText_eq_ok_iff h, hv] at hc
    cases hc

theorem Readable.ofMembers?_eq {ms : List (List Char × Json)} (h : Readable ms) :
    ofMembers? ms = some (settled ms) := by
  rw [ofMembers?, h.markers.settle?_eq, h.fields.settle?_eq, h.output.settle?_eq,
    h.logLevel.settle?_eq]
  rfl

theorem ofMembers?_of_repeated {ms : List (List Char × Json)} {key : String} (hk : key ∈ keys)
    (h : 1 < (valuesOf ms key).length) : ofMembers? ms = none := by
  simp only [keys, List.mem_cons, List.not_mem_nil, or_false] at hk
  obtain rfl | rfl | rfl | rfl := hk <;> simp [ofMembers?, settle?_of_repeated h]

theorem ofMembers?_of_output {ms : List (List Char × Json)} {v : Json}
    (hv : v ∈ valuesOf ms "output") (h : OutputConfig.ofJson? v = none) : ofMembers? ms = none := by
  simp [ofMembers?, settle?_of_mem hv h]

-- Of an object without repeated keys and with values of the right types, each field is the value of
-- its key, or its default if the key is missing; so are the fields of the output. A list means what
-- the object with its elements under the first keys means, and a repeated key is always an error.
theorem ofText_settles_fields {v : Json} {text : String} (h : DocumentText v text.toList) :
    (∀ c, ofText text = .ok c ↔ ofJson? v = some c) ∧
    (∀ ms, v = .object ms → Readable ms → ofText text = .ok (settled ms)) ∧
    (∀ ms, OutputConfig.Readable ms →
      OutputConfig.ofJson? (.object ms) = some (OutputConfig.settled ms)) ∧
    (∀ vs text', v = .list vs → vs.length ≤ keys.length →
      DocumentText (.object ((keys.map String.toList).zip vs)) text'.toList →
      ∀ c, ofText text = .ok c ↔ ofText text' = .ok c) ∧
    (∀ vs, vs.length ≤ OutputConfig.keys.length → OutputConfig.ofJson? (.list vs) =
      OutputConfig.ofJson? (.object ((OutputConfig.keys.map String.toList).zip vs))) ∧
    (∀ ms, ∀ key ∈ keys, v = .object ms → 1 < (valuesOf ms key).length →
      ∃ f, ofText text = .error f) ∧
    (∀ ms ms', ∀ key ∈ OutputConfig.keys, v.members? keys = some ms →
      .object ms' ∈ valuesOf ms "output" → 1 < (valuesOf ms' key).length →
      ∃ f, ofText text = .error f) := by
  refine ⟨fun _ => ofText_eq_ok_iff h, ?_, ?_, ?_, ?_, ?_, ?_⟩
  · rintro ms rfl hr
    exact (ofText_eq_ok_iff h).mpr hr.ofMembers?_eq
  · exact fun _ hr => hr.ofMembers?_eq
  · rintro vs text' rfl hl h' c
    rw [ofText_eq_ok_iff h, ofText_eq_ok_iff h', ofJson?, members?_list hl, ofJson?]
  · intro vs hl
    rw [OutputConfig.ofJson?, members?_list hl, OutputConfig.ofJson?]
  · rintro ms key hk rfl hr
    exact ofText_fails h <| ofMembers?_of_repeated hk hr
  · intro ms ms' key hk hm ho hr
    have hn : OutputConfig.ofJson? (.object ms') = none := OutputConfig.ofMembers?_of_repeated hk hr
    refine ofText_fails h ?_
    rw [ofJson?, hm]
    exact ofMembers?_of_output ho hn

-- A key may be written with an escape, and may come again inside the value of an unknown key.
theorem ofText_settles_fields_of_escaped_key :
    let x := .list [.object [("log_level".toList, .null)]]
    let ms := [
      ("x".toList, x), ("log_level".toList, .string "debug".toList),
      ("output".toList, .list [.string "inplace".toList])
    ]
    let text := "\x7b\"x\":[\x7b\"log_level\":null\x7d], \"\\u006cog_level\":\"debug\",\n" ++
      "\"output\":[\"inplace\"]\x7d"
    DocumentText (.object ms) text.toList ∧ Readable ms ∧
      ofText text = .ok { output := { writeMode := .inPlace }, logLevel := .debug } := by
  intro x ms text
  subst text
  have hx : ValueText x "[\x7b\"log_level\":null\x7d]".toList :=
    .list <| .next (.first (w := []) rfl)
      (.object <| .next (.first (w := []) rfl) (.printed _) (w := []) rfl (u := []) rfl .null <|
        .done (w := []) rfl) <|
      .done (w := []) rfl
  have hl : CodeText 'l'.toNat "006c".toList := ⟨rfl, rfl⟩
  have hk : StringText "log_level".toList "\\u006cog_level\"".toList :=
    .next (.code hl) (.printed "og_level".toList)
  have ho : ValueText (.list [.string "inplace".toList]) "[\"inplace\"]".toList :=
    .list <| .next (.first (w := []) rfl) (.string (.printed _)) <| .done (w := []) rfl
  have hv : ValueText (.object ms) _ :=
    .object <|
    .next (.first (w := []) rfl) (.printed "x".toList) (w := []) rfl (u := []) rfl hx <|
    .next (.later (w := []) rfl (u := [' ']) rfl) hk (w := []) rfl (u := []) rfl
      (.string (.printed "debug".toList)) <|
    .next (.later (w := []) rfl (u := ['\n']) rfl) (.printed "output".toList) (w := []) rfl
      (u := []) rfl ho <|
    .done (w := []) rfl
  have hr : Readable ms := by
    refine ⟨⟨?_, ?_⟩, ⟨?_, ?_⟩, ⟨?_, ?_⟩, ⟨?_, ?_⟩⟩ <;> decide
  have h := DocumentText.spaced (w := []) rfl hv (u := []) rfl
  rw [List.nil_append, List.append_nil] at h
  exact ⟨h, hr, (ofText_settles_fields h).2.1 ms rfl hr⟩

end Config

end TabPruning

import TabPruning.Proofs.Config.Settling

namespace TabPruning

open Json

theorem Json.variant?_string {ofName? : String → Option α} {name : String} {a : α}
    (h : ofName? name = some a) : variant? ofName? (.string name.toList) = some a := by
  rw [variant?, String.ofList_toList, h]

theorem Json.list?_map {decode : Json → Option α} {encode : α → Json}
    (h : ∀ a, decode (encode a) = some a) (as : List α) :
    list? decode (.list (as.map encode)) = some as := by
  rw [list?]
  induction as
  case nil => rfl
  case cons a as ih => rw [List.map_cons, List.mapM_cons, h, ih]; rfl

namespace OutputConfig

theorem prints_toJson (o : OutputConfig) : Prints o.toJson :=
  .object <| by simp [Prints.string, Prints.bool]

theorem ofJson?_toJson (o : OutputConfig) : ofJson? o.toJson = some o := by
  have hw : writeMode? _ = some o.writeMode := variant?_string o.writeMode.ofName?_name
  simp [ofJson?, toJson, members?, ofMembers?, valuesOf, settle?, hw, bool?]

end OutputConfig

namespace Config

theorem prints_toJson (c : Config) : Prints c.toJson :=
  .object <| by
    simp only [List.forall_mem_cons, List.not_mem_nil, false_implies, implies_true, and_true]
    exact ⟨.list <| by simp [Prints.string], .list <| by simp [Prints.string],
      c.output.prints_toJson, .string _⟩

theorem ofJson?_toJson (c : Config) : ofJson? c.toJson = some c := by
  have hm : markers? (.list (c.markers.map (.string ·.tabName.toList))) = some c.markers :=
    list?_map (fun m => variant?_string m.ofTabName?_tabName) c.markers
  have hf : fields? (.list (c.fields.map (.string ·.toList))) = some c.fields :=
    list?_map (fun name => by rw [string?, String.ofList_toList]) c.fields
  have hl : logLevel? _ = some c.logLevel := variant?_string c.logLevel.ofName?_name
  simp [ofJson?, toJson, members?, ofMembers?, valuesOf, settle?, hm, hf, hl,
    c.output.ofJson?_toJson]

theorem ofText_toText (c : Config) : ofText c.toText = .ok c := by
  have h : DocumentText c.toJson c.toText.toList := by
    rw [toText, String.toList_ofList]
    have h := DocumentText.spaced (w := []) rfl (c.prints_toJson 0) (u := []) rfl
    rwa [List.nil_append, List.append_nil] at h
  exact (ofText_eq_ok_iff h).mpr c.ofJson?_toJson

end Config

end TabPruning

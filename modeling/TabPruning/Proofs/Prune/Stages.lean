import TabPruning.Proofs.Excision.Segmentation
import TabPruning.Proofs.Field.Renumbering

namespace TabPruning

variable {c : Config} {text : String}

theorem Line.declares_nil {name : List Char} (h : name ≠ []) : declares name [] = false := by
  simp [declares, opensWith, afterPrefix?, h]

namespace Config

theorem excise_segmentation (c : Config) (text : String) :
    Segmentation c.markers (.ofText text.toList) 0 (c.excise text) :=
  Segmentation.iff_eq_excise.mpr rfl

theorem mem_document_of_mem_lines : ∀ l ∈ (c.excise text).lines, l ∈ Document.ofText text.toList :=
  List.forall_mem_map.mpr fun n hn => List.mem_of_getElem? <|
    (c.excise_segmentation text).kept_lines n hn

-- Both stages over the lines of the input, under their numbers there.
def residue (c : Config) (text : String) : Stripping :=
  stripFields c.fields (c.excise text).kept

theorem strip_of_kept_eq_nil (hn : ∀ f ∈ c.fields, f.toList ≠ []) (h : (c.excise text).kept = []) :
    c.strip (c.excise text) = ⟨[⟨0, []⟩], []⟩ := by
  have hs : (Document.ofText (Document.toText [])).numbered = [⟨0, []⟩] := by decide
  rw [strip, Excision.lines, h, List.map_nil, Document.strip, hs]
  refine stripFields_eq_self fun f hf => ?_
  simpa using Line.declares_nil <| hn f hf

theorem strip_of_kept_ne_nil (h : (c.excise text).kept ≠ []) :
    (c.strip (c.excise text)).relabel (fun i => (c.excise text).sources[i]?.getD i) =
      c.residue text :=
  Document.strip_joined c.fields h fun _ hn =>
    Document.not_mem_of_mem_ofText _ <| mem_document_of_mem_lines _ <| List.mem_map_of_mem hn

theorem lineFeed_not_mem_residue (c : Config) (text : String) :
    ∀ l ∈ (c.residue text).kept.map (·.line), '\n' ∉ l := by
  refine List.forall_mem_map.mpr fun n hn => ?_
  exact Document.not_mem_of_mem_ofText _ <| mem_document_of_mem_lines _ <|
    List.mem_map_of_mem <| (stripFields_sublist c.fields _).subset hn

theorem prune_eq_residue (hn : ∀ f ∈ c.fields, f.toList ≠ []) (text : String) :
    c.prune text =
      ⟨String.ofList (c.residue text).toText, (c.excise text).log, (c.residue text).removals⟩ := by
  by_cases h : (c.excise text).kept = []
  case pos =>
    have hr : c.residue text = ⟨[], []⟩ := by
      rw [residue, h]
      exact stripFields_eq_self fun _ _ => nofun
    rw [prune, strip_of_kept_eq_nil hn h, hr]
    rfl
  case neg =>
    have hs := strip_of_kept_ne_nil h
    have hr : (c.strip (c.excise text)).removals.map (·.renumber (c.excise text).sources.toArray) =
        (c.residue text).removals := by
      rw [← hs, Stripping.relabel]
      exact List.map_congr_left fun r hr => FieldRemoval.renumber_eq_relabel <|
        removal_line_pos r hr
    rw [prune, hr, ← hs, Stripping.toText_relabel]

end Config

end TabPruning

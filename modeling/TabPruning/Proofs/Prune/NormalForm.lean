import TabPruning.Proofs.Config.Validation
import TabPruning.Proofs.Prune.Stages

namespace TabPruning

variable {c c' : Config} {text : String}

theorem Detector.trigger_not_infix_nil (m : Marker) : ¬m.trigger.toList <:+: [] := by
  cases m <;> decide

namespace Document

-- Where nothing is marked, every line is kept.
theorem exciseFrom_of_unmarked {detector : Detector} {ls : Document}
    (h : ∀ l ∈ ls, detector.marker? l = none) (i : Nat) :
    exciseFrom detector i ls = ⟨(ls.zipIdx i).map fun (l, i) => ⟨i, l⟩, {}⟩ := by
  induction ls generalizing i
  case nil => rw [exciseFrom]; rfl
  case cons l ls ih =>
    obtain ⟨hl, hls⟩ := List.forall_mem_cons.mp h
    rw [exciseFrom, hl, ih hls (i + 1)]
    rfl

theorem excise_of_unmarked {detector : Detector} {d : Document}
    (h : ∀ l ∈ d, detector.marker? l = none) : d.excise detector = ⟨d.numbered, {}⟩ :=
  exciseFrom_of_unmarked h 0

end Document

namespace Config

structure IsNormal (c : Config) (d : Document) : Prop where
  unmarked   : ∀ l ∈ d, ∀ m ∈ c.markers, ¬m.trigger.toList <:+: l
  undeclared : ∀ f ∈ c.fields, ∀ l ∈ d, l.declares f.toList = false

namespace IsNormal

theorem mono {d : Document} (h : c.IsNormal d)
    (hm : c'.markers ⊆ c.markers) (hf : c'.fields ⊆ c.fields) : c'.IsNormal d where
  unmarked   := fun l hl m h' => h.unmarked l hl m (hm h')
  undeclared := fun f h' => h.undeclared f (hf h')

theorem empty (hn : ∀ f ∈ c.fields, f.toList ≠ []) : c.IsNormal [[]] where
  unmarked   := by simpa using fun m _ => Detector.trigger_not_infix_nil m
  undeclared := by simpa using fun f hf => Line.declares_nil <| hn f hf

end IsNormal

theorem excise_of_unmarked
    (h : ∀ l ∈ Document.ofText text.toList, ∀ m ∈ c.markers, ¬m.trigger.toList <:+: l) :
    c.excise text = ⟨(Document.ofText text.toList).numbered, {}⟩ :=
  Document.excise_of_unmarked fun l hl => Detector.marker?_ofMarkers_eq_none_iff.mpr <| h l hl

theorem prune_of_isNormal (h : c.IsNormal (.ofText text.toList)) :
    c.prune text = ⟨text, {}, []⟩ := by
  have he := excise_of_unmarked h.unmarked
  obtain ⟨d, hd⟩ : ∃ d, Document.ofText text.toList = d := ⟨_, rfl⟩
  rw [hd] at h he
  have hl : (c.excise text).lines = d := by rw [he, Excision.lines, Document.numbered_lines]
  have ht : d.toText = text.toList := hd ▸ Document.toText_ofText _
  have hs : c.strip (c.excise text) = ⟨d.numbered, []⟩ := by
    rw [strip, hl, ht, hd]
    refine stripFields_eq_self fun f hf => ?_
    have := h.undeclared f hf
    rwa [← d.numbered_lines, List.forall_mem_map] at this
  rw [prune, hs, he, Stripping.toText, Document.numbered_lines, ht]
  simp

theorem residue_isNormal (c : Config) (text : String) :
    c.IsNormal ((c.residue text).kept.map (·.line)) := by
  have ⟨xs, p, _⟩ := stripFields_passes c.fields (c.excise text).kept
  constructor
  case unmarked =>
    exact List.forall_mem_map.mpr fun n hn =>
      (c.excise_segmentation text).kept_unmarked n <| p.sublist.subset hn
  case undeclared =>
    exact fun f hf => List.forall_mem_map.mpr <| p.not_declares f hf

theorem prune_isNormal (hn : ∀ f ∈ c.fields, f.toList ≠ []) (text : String) :
    c.IsNormal (.ofText (c.prune text).text.toList) := by
  have h := c.residue_isNormal text
  rw [prune_eq_residue hn, String.toList_ofList, Stripping.toText]
  by_cases hk : (c.residue text).kept.map (·.line) = []
  case pos => exact hk ▸ .empty hn
  case neg =>
    rw [Document.ofText_toText hk <| c.lineFeed_not_mem_residue text]
    exact c.residue_isNormal text

-- A pruned text has nothing left to prune, for its own settings or any that ask for less.
theorem prune_prune (hc : c.validate = .ok ())
    (hm : c'.markers ⊆ c.markers) (hf : c'.fields ⊆ c.fields) (text : String) :
    c'.prune (c.prune text).text = ⟨(c.prune text).text, {}, []⟩ :=
  prune_of_isNormal <| prune_isNormal (fields_ne_nil hc) text |>.mono hm hf

theorem prune_prune_default :
    validate {} = .ok () ∧ [Marker.team] ⊆ Marker.all ∧ ["custom_domain"] ⊆ defaultFields ∧
      let text := (prune {} "\x7bactiveTab === 'team' && (\n)\x7d\ncustom_domain: 1,\nlast").text
      prune { markers := [.team], fields := ["custom_domain"] } text = ⟨text, {}, []⟩ := by
  have hc : validate {} = .ok () := rfl
  have hm : [Marker.team] ⊆ Marker.all := by decide
  have hf : ["custom_domain"] ⊆ defaultFields := by decide
  exact ⟨hc, hm, hf, prune_prune hc hm hf _⟩

end Config

end TabPruning

import Mathlib.Data.List.Nodup
import Mathlib.Data.List.Sort
import TabPruning.Proofs.Field.Completeness
import TabPruning.Proofs.Field.Declaration
import TabPruning.Proofs.Prune.Accounting

namespace TabPruning

-- The lines of the document that lie in no removed block.
def Outcome.outside (o : Outcome) (d : Document) : List NumberedLine :=
  d.numbered.filter fun n => !o.log.blocks.any (·.covers n.index)

variable {c : Config} {text : String} {ms : List Marker} {d : Document} {e : Excision}
variable {f g : String} {l : Line} {n : NumberedLine} {o : Outcome} {kept continuations : List Nat}

namespace Segmentation

theorem mem_kept_iff (s : Segmentation ms d 0 e) :
    n ∈ e.kept ↔ d[n.index]? = some n.line ∧ ∀ b ∈ e.log.blocks, ¬b.covers n.index := by
  constructor
  case mp =>
    intro hn
    have hl := s.kept_lines n hn
    have hc := s.covered n.index (Nat.zero_le _) <| Document.index_lt hl
    have hs : 0 < e.sources.count n.index := List.count_pos_iff.mpr <| List.mem_map_of_mem hn
    rw [Excision.coverage] at hc
    exact ⟨hl, List.countP_eq_zero.mp <| by omega⟩
  case mpr =>
    rintro ⟨hl, hb⟩
    have hc := s.covered n.index (Nat.zero_le _) <| Document.index_lt hl
    rw [Excision.coverage, List.countP_eq_zero.mpr hb] at hc
    have hs : n.index ∈ e.sources := List.count_pos_iff.mp <| by omega
    obtain ⟨n', hn', hi⟩ := List.mem_map.mp hs
    have hl' := hi ▸ s.kept_lines n' hn'
    cases n
    cases n'
    cases hi
    cases hl.symm.trans hl'
    exact hn'

-- Both sides are ordered by the numbers of their lines.
theorem kept_eq (s : Segmentation ms d 0 e) :
    e.kept = d.numbered.filter fun n => !e.log.blocks.any (·.covers n.index) := by
  have : Std.Antisymm fun n n' : NumberedLine => n.index < n'.index :=
    ⟨fun _ _ h h' => absurd h' <| Nat.lt_asymm h⟩
  have : Std.Irrefl fun n n' : NumberedLine => n.index < n'.index := ⟨fun _ => Nat.lt_irrefl _⟩
  have ho : e.kept.Pairwise (·.index < ·.index) := List.pairwise_map.mp s.kept_ordered
  refine ho.eq_of_mem_iff (d.numbered_ordered.filter _) fun n => ?_
  simp [s.mem_kept_iff, Document.mem_numbered_iff]

end Segmentation

namespace Accounting

theorem removals_nodup (a : Accounting d o kept continuations) :
    (o.removals.map (·.line)).Nodup := by
  refine List.nodup_iff_count_le_one.mpr fun number => ?_
  by_cases hm : number ∈ o.removals.map (·.line)
  case neg => simp [List.count_eq_zero.mpr hm]
  case pos =>
    obtain ⟨r, hr, rfl⟩ := List.mem_map.mp hm
    have ⟨hpos, l, hl, _⟩ := a.declared r hr
    have ho := a.once (r.line - 1) <| Document.index_lt hl
    rw [Nat.sub_add_cancel hpos] at ho
    have hc : (o.removals.map (·.line)).count r.line = o.removals.countP (·.line = r.line) := by
      rw [List.count, List.countP_map]
      rfl
    omega

end Accounting

namespace Config

theorem outside_eq (c : Config) (text : String) :
    (c.prune text).outside (.ofText text.toList) = (c.excise text).kept :=
  (c.excise_segmentation text).kept_eq.symm

theorem isBareName_of_mem (hc : c.validate = .ok ()) :
    ∀ f ∈ c.fields, Line.IsBareName f.toList := by
  intro f hf
  have hb := fields_bare hc f hf
  refine ⟨fields_ne_nil hc f hf, fun c hc => ?_⟩
  simpa using List.all_eq_true.mp hb c hc

-- A line declares one of the fields at most.
theorem declared_unique (hc : c.validate = .ok ()) (hf : f ∈ c.fields) (hg : g ∈ c.fields)
    (h : l.IsDeclaration f.toList) (h' : l.IsDeclaration g.toList) : f = g :=
  String.toList_inj.mp <| h.name_unique (isBareName_of_mem hc f hf) (isBareName_of_mem hc g hg) h'

theorem removals_eq (hc : c.validate = .ok ()) (hp : ∀ f ∈ c.fields, Line.IsPlainName f.toList)
    (text : String) :
    (c.prune text).removals.map (fun r => (r.field, r.line)) = c.fields.flatMap fun f =>
      (declarations (c.excise text).kept f).map fun (f, n) => (f, n.index + 1) := by
  have ⟨xs, p, hr⟩ := stripFields_passes c.fields (c.excise text).kept
  have hu : ∀ l ∈ (c.excise text).kept, ∀ f ∈ c.fields, ∀ g ∈ c.fields,
      l.line.declares f.toList → l.line.declares g.toList → f = g :=
    fun _ _ _ hf _ hg h h' =>
      declared_unique hc hf hg (Line.declares_iff.mp h) (Line.declares_iff.mp h')
  have hn : ∀ l ∈ (c.excise text).kept, ∀ f ∈ c.fields,
      l.line.isContinuation → l.line.declares f.toList = false := by
    intro l _ f hf hcont
    refine Bool.eq_false_iff.mpr fun hd => ?_
    have hd := Line.declares_iff.mp hd
    exact (hd.isContinuation_iff (isBareName_of_mem hc f hf) |>.mp hcont).2 <| hp f hf
  have hh := p.heads_eq (fields_nodup hc) hu hn
  rw [prune_eq_residue (fields_ne_nil hc), residue, hr, ← List.map_flatMap, ← hh, Deletion.heads,
    List.map_map, List.map_map]
  rfl

-- For every field in its order, the report names the lines outside the blocks that declare it, and
-- no line twice.
theorem prune_reports_declarations (hc : c.validate = .ok ())
    (hi : ∀ f ∈ c.fields, Line.isIdentifier f.toList) (text : String) :
    let o := c.prune text
    o.removals.map (fun r => (r.field, r.line)) = c.fields.flatMap (fun f =>
      ((o.outside (.ofText text.toList)).filter fun n => n.line.IsDeclaration f.toList).map
        fun n => (f, n.index + 1)) ∧
    (o.removals.map (·.line)).Nodup := by
  intro o
  have ⟨_, _, a⟩ := exists_accounting (fields_ne_nil hc) text
  refine ⟨?_, a.removals_nodup⟩
  rw [removals_eq hc (fun f hf => .inl <| hi f hf), outside_eq]
  refine List.flatMap_congr fun f _ => ?_
  simp [declarations, Line.declares_eq_decide]

theorem prune_reports_declarations_across_fields :
    let c : Config := { markers := [.team], fields := ["b", "$a"] }
    let text := "$a: 1\nb :\n b: 2,\nif (activeTab === 'team') \x7b\n  b: 3,\n\x7d\n\tb: 4,\nab: 5,"
    c.validate = .ok () ∧ (∀ f ∈ c.fields, Line.isIdentifier f.toList) ∧
      ((c.prune text).removals.map fun r => (r.field, r.line)) =
        [("b", 2), ("b", 3), ("b", 7), ("$a", 1)] := by
  intro c text
  have hc : c.validate = .ok () := rfl
  have hi : ∀ f ∈ c.fields, Line.isIdentifier f.toList := by decide +kernel
  refine ⟨hc, hi, (prune_reports_declarations hc hi text).1.trans ?_⟩
  decide +kernel

end Config

end TabPruning

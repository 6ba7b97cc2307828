import TabPruning.Proofs.Machine.Writing
import TabPruning.Proofs.Prune.Declarations
import TabPruning.Proofs.Prune.NormalForm
import TabPruning.Proofs.Prune.Report
import TabPruning.Proofs.Run.Execution

namespace TabPruning

variable {c : Config} {text : String} {d : Document} {o : Outcome} {kept continuations : List Nat}

theorem Document.select_range (d : Document) : d.select (List.range d.length) = d := by
  rw [← d.numbered_indices, select_map_index fun _ hn => mem_numbered_iff.mp hn, numbered_lines]

namespace Outcome

structure RemovesNothing (o : Outcome) : Prop where
  blocks : o.log.isEmpty
  fields : o.removals = []

namespace RemovesNothing

theorem timesReported_eq (h : o.RemovesNothing) (number : Nat) : o.timesReported number = 0 := by
  have hb : o.log.blocks = [] := List.isEmpty_iff.mp h.blocks
  rw [timesReported, hb, h.fields]
  rfl

theorem remainder_eq (h : o.RemovesNothing) (d : Document) : o.remainder d = d := by
  have hu : o.unreported d.length = List.range d.length :=
    List.filter_eq_self.mpr fun i _ => decide_eq_true <| h.timesReported_eq (i + 1)
  rw [remainder, hu, d.select_range]

end RemovesNothing

theorem not_removesNothing_iff :
    ¬o.RemovesNothing ↔ o.log.isEmpty = false ∨ o.removals ≠ [] := by
  rw [← Bool.not_eq_true, ← not_and_or]
  exact not_congr ⟨fun h => ⟨h.blocks, h.fields⟩, fun h => ⟨h.1, h.2⟩⟩

end Outcome

theorem Accounting.text_eq_of_removesNothing (a : Accounting d o kept continuations)
    (hf : ∀ l ∈ d, '\n' ∉ l) (h : o.RemovesNothing) : o.text = String.ofList d.toText := by
  have hu := a.unreported_eq_kept_iff.mpr fun i _ =>
    (h.timesReported_eq (i + 1)).le.trans <| Nat.zero_le 1
  rw [← (a.text_eq_iff hf).mpr hu, h.remainder_eq]

namespace Config

theorem removesNothing_of_isNormal (h : c.IsNormal (.ofText text.toList)) :
    (c.prune text).RemovesNothing := by
  rw [prune_of_isNormal h]
  exact ⟨rfl, rfl⟩

theorem text_eq_iff_isNormal (hn : ∀ f ∈ c.fields, f.toList ≠ []) :
    (c.prune text).text = text ↔ c.IsNormal (.ofText text.toList) where
  mp h  := h ▸ prune_isNormal hn text
  mpr h := by rw [prune_of_isNormal h]

theorem text_eq_iff_removesNothing (hn : ∀ f ∈ c.fields, f.toList ≠ []) :
    (c.prune text).text = text ↔ (c.prune text).RemovesNothing where
  mp h  := removesNothing_of_isNormal <| (text_eq_iff_isNormal hn).mp h
  mpr h := by
    have ⟨_, _, a⟩ := exists_accounting hn text
    rw [a.text_eq_of_removesNothing Document.not_mem_of_mem_ofText h, Document.toText_ofText,
      String.ofList_toList]

theorem isNormal_iff : c.IsNormal d ↔ ∀ l ∈ d, (∀ m ∈ c.markers, ¬m.trigger.toList <:+: l) ∧
    ∀ f ∈ c.fields, ¬l.IsDeclaration f.toList where
  mp h l hl := by
    refine ⟨h.unmarked l hl, fun f hf hd => ?_⟩
    exact Bool.eq_false_iff.mp (h.undeclared f hf l hl) <| Line.declares_iff.mpr hd
  mpr h := by
    refine ⟨fun l hl => (h l hl).1, fun f hf l hl => Bool.eq_false_iff.mpr fun hd => ?_⟩
    exact (h l hl).2 f hf <| Line.declares_iff.mp hd

end Config

namespace Pruner

variable {p : Pruner} {s s' : Machine} {input : String} {output : Option String} {r : Report}

theorem Ran.exists_report (h : p.Ran input output s (.ok r) s') :
    ∃ content, r = p.report input output content := by
  cases h
  case idle  => exact ⟨_, rfl⟩
  case wrote => exact ⟨_, rfl⟩

end Pruner

-- The text changes just when something is reported as removed, which is when there is something to
-- remove; and the report of a run says so.
theorem Config.prune_changes_iff_removes (hc : c.validate = .ok ()) :
    (∀ text, (c.prune text).text ≠ text ↔
      (c.prune text).log.isEmpty = false ∨ (c.prune text).removals ≠ []) ∧
    (∀ text, (c.prune text).text = text ↔ ∀ l ∈ Document.ofText text.toList,
      (∀ m ∈ c.markers, ¬m.trigger.toList <:+: l) ∧ ∀ f ∈ c.fields, ¬l.IsDeclaration f.toList) ∧
    ∀ (p : Pruner) (input : String) (output : Option String) (s s' : Machine) (r : Report),
      p.config = c →
      (s.exec (p.runLogged input output) = (.ok r, s') ∨
        ∃ es, (p.runObserved input output : MachineM _).run s = ((.ok r, es), s')) →
      (r.changed ↔ r.log.isEmpty = false ∨ r.removals ≠ []) := by
  have hn := fields_ne_nil hc
  have hiff (text : String) : (c.prune text).text ≠ text ↔
      (c.prune text).log.isEmpty = false ∨ (c.prune text).removals ≠ [] :=
    (text_eq_iff_removesNothing hn).not.trans Outcome.not_removesNothing_iff
  refine ⟨hiff, fun text => (text_eq_iff_isNormal hn).trans isNormal_iff, ?_⟩
  intro p input output s s' r hp h
  subst hp
  have hran : p.Ran input output s (.ok r) s' :=
    h.elim Pruner.ran_of_runLogged fun ⟨_, h⟩ => Pruner.ran_of_runObserved h
  have ⟨content, hr⟩ := hran.exists_report
  subst hr
  exact decide_eq_true_iff.trans <| hiff content

-- A dry run over a text of one line, and a text of mixed line ends that comes back as it is.
theorem Config.prune_changes_iff_removes_of_single_line :
    let p : Pruner := { config := { output := { dryRun := true } }, sound := by decide }
    let text := "custom_domain: 1"
    let s : Machine :=
      { tree := FileTree.empty.set ["in.ts"] (.file text.toUTF8 0o644), workingDirectory := [] }
    p.config.validate = .ok () ∧ (p.config.prune text).text ≠ text ∧
      (p.config.prune "a,\r\n\nactiveTab\n\r").text = "a,\r\n\nactiveTab\n\r" ∧
      ∃ r s', s.exec (p.runLogged "in.ts" none) = (.ok r, s') ∧ r.removals ≠ [] ∧ r.changed := by
  intro p text s
  have hc : p.config.validate = .ok () := rfl
  have ⟨hiff, hsame, hrun⟩ := prune_changes_iff_removes hc
  have hr : (p.config.prune text).removals ≠ [] := by decide +kernel
  have hread : s.readText "in.ts" = .ok text :=
    FileTree.readText_of_resolve <| FileTree.Walks.resolve (.arrive (by decide) rfl) (by decide)
  have hexec : ∃ s', s.exec (p.runLogged "in.ts" none) =
      (.ok (p.report "in.ts" none text), s') := by
    rw [Pruner.exec_runLogged, hread]
    exact ⟨_, rfl⟩
  have ⟨s', he⟩ := hexec
  refine ⟨hc, (hiff text).mpr (.inr hr), (hsame _).mpr (by decide +kernel), ?_⟩
  exact ⟨_, s', he, hr, (hrun p "in.ts" none s s' _ rfl (.inl he)).mpr (.inr hr)⟩

end TabPruning

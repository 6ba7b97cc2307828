import TabPruning.Proofs.Machine.Writing
import TabPruning.Proofs.Run.Execution

namespace TabPruning

-- Only files matter, not what was logged.
theorem Machine.Written.congr {s s' s₁ s₂ : Machine} {mode : WriteMode} {path text : String}
    {place : Place} (h : s₁.Written s₂ mode path text place) (hs : s₁.SameFiles s)
    (hs' : s'.SameFiles s₂) : s.Written s' mode path text place := by
  obtain ⟨⟩ := s
  obtain ⟨⟩ := s'
  obtain ⟨⟩ := s₁
  obtain ⟨⟩ := s₂
  obtain ⟨rfl, rfl⟩ := hs
  obtain ⟨rfl, rfl⟩ := hs'
  exact ⟨h.destination, h.content, h.mode_kept, h.others, h.reading, h.reaches⟩

namespace Pruner

open Machine

-- The files before and after a run; `written` tells whether it put the pruned text in its
-- destination.
structure Effect (p : Pruner) (s s' : Machine) (input destination content : String)
    (written : Bool) : Prop where
  read        : s.readText input = .ok content
  written_iff : written ↔ ¬p.config.output.dryRun ∧
    ((p.config.prune content).text ≠ content ∨ ¬Path.same destination input)
  untouched   : written = false → s'.tree = s.tree
  placed      : written → ∃ place,
    s.Written s' p.config.output.writeMode destination (p.config.prune content).text place
  input_kept  : ∀ q c m, s.tree.resolve .use s.workingDirectory input = .ok (.file q c m) →
    s'.tree.get? q = some (.file c m) ∨
      written ∧ s.destination? p.config.output.writeMode destination = some q

variable {p : Pruner} {s s' : Machine} {input content : String} {output : Option String}

theorem effect_of_report (hr : s.readText input = .ok content)
    (hn : (p.report input output content).written = false → s'.tree = s.tree)
    (hw : (p.report input output content).written → ∃ place,
      s.Written s' p.config.output.writeMode (output.getD input) (p.config.prune content).text
        place) :
    p.Effect s s' input (output.getD input) content (p.report input output content).written where
  read        := hr
  written_iff := by simp [report, writes]
  untouched   := hn
  placed      := hw
  input_kept q c m hi := by
    have hg := FileTree.get?_of_resolve hi
    cases hb : (p.report input output content).written
    case false =>
      rw [hn hb]
      exact .inl hg
    case true =>
      obtain ⟨place, h⟩ := hw hb
      by_cases hq : q = place
      case pos => exact .inr ⟨rfl, hq ▸ h.destination⟩
      case neg => exact .inl <| (h.others q hq).trans hg

theorem Ran.effect {r : Report} (h : p.Ran input output s (.ok r) s') :
    ∃ content, p.Effect s s' input (output.getD input) content r.written := by
  cases h
  case idle content hr hb hs =>
    exact ⟨content, effect_of_report hr (fun _ => hs.tree) (by simp [hb])⟩
  case wrote content s₁ s₂ hr hb hs hw hs' =>
    refine ⟨content, effect_of_report hr (by simp [hb]) fun _ => ?_⟩
    obtain ⟨place, hw⟩ := written_of_write hw
    exact ⟨place, hw.congr hs hs'⟩

theorem Ran.tree_of_dryRun {a : Except Failure Report} (h : p.Ran input output s a s')
    (hd : p.config.output.dryRun) : s'.tree = s.tree := by
  have hn (content : String) : ¬(p.report input output content).written := by
    simp [report, writes, hd]
  cases h
  case unread         => rfl
  case idle hs        => exact hs.tree
  case refused hb _ _ => exact absurd hb <| hn _
  case wrote hb _ _ _ => exact absurd hb <| hn _

theorem effect_of_runLogged {r : Report} (h : s.exec (p.runLogged input output) = (.ok r, s')) :
    ∃ content, p.Effect s s' input (output.getD input) content r.written :=
  (ran_of_runLogged h).effect

theorem effect_of_runObserved {r : Report} {es : List Event}
    (h : (p.runObserved input output : MachineM _).run s = ((.ok r, es), s')) :
    ∃ content, p.Effect s s' input (output.getD input) content r.written :=
  (ran_of_runObserved h).effect

-- Whether records or observers tell of it, a run that succeeds changes at most its destination.
theorem run_touches_only_destination {r : Report}
    (h : s.exec (p.runLogged input output) = (.ok r, s') ∨
      ∃ es, (p.runObserved input output : MachineM _).run s = ((.ok r, es), s')) :
    ∃ content, p.Effect s s' input (output.getD input) content r.written :=
  h.elim effect_of_runLogged fun ⟨_, h⟩ => effect_of_runObserved h

-- A file beside a directory with a link that leads back to this directory.
def looped : Machine where
  tree := ((FileTree.empty.set ["d"] (.directory 0o755)).set ["l", "d"] (.link ".")).set
    ["in.txt"] (.file "tabs\n".toUTF8 0o644)
  workingDirectory := []

theorem looped_walks : looped.tree.Walks FileTree.maxLinks [] ["d", "l"] (.directory ["d"]) :=
  .enter (by decide) rfl <| .follow (by decide) rfl (by decide) <| .stay (.inr rfl) .done

theorem looped_named? : looped.tree.named? [] "d/l/l" = some ["l", "d"] :=
  FileTree.named?_eq_some_iff.mpr
    ⟨["d", "l"], "l", ["d"], by decide, by decide, looped_walks, rfl⟩

theorem looped_readText : looped.readText "in.txt" = .ok "tabs\n" :=
  FileTree.readText_of_resolve <| FileTree.Walks.resolve (.arrive (by decide) rfl) (by decide)

theorem exec_looped (p : Pruner) (hm : p.config.output.writeMode = .atomic)
    (hd : p.config.output.dryRun = false) :
    ∃ r s', looped.exec (p.runLogged "in.txt" (some "d/l/l")) = (.ok r, s') ∧ r.written := by
  have hb : (p.report "in.txt" (some "d/l/l") "tabs\n").written := by
    have hp : Path.same "d/l/l" "in.txt" = false := by decide
    simp [report, writes, hd, hp]
  have hw (s : Machine) (hs : s.SameFiles looped) :
      ∃ s', s.write p.config.output.writeMode "d/l/l" (p.config.prune "tabs\n").text =
        (.ok (), s') := by
    have hd : s.tree.resolveDirectory (FileTree.start s.workingDirectory (Path.directory "d/l/l"))
        (FileTree.steps (Path.directory "d/l/l")) = .ok ["d"] := by
      rw [hs.tree, hs.workingDirectory]
      exact FileTree.resolveDirectory_eq_ok_iff.mpr looped_walks
    have hn : s.tree.named? s.workingDirectory "d/l/l" = some ["l", "d"] := by
      rw [hs.tree, hs.workingDirectory]
      exact looped_named?
    rw [hm]
    refine write_of_named? hd hn fun m he => ?_
    rw [hs.tree] at he
    cases he
  obtain ⟨s', h⟩ := exec_runLogged_of_write looped_readText hb hw
  exact ⟨_, s', h, hb⟩

-- It changes its destination and nothing else even where the destination is a link to a directory.
theorem run_touches_only_destination_in_loop :
    let p : Pruner := { config := {}, sound := by decide }
    ∃ r s' content, looped.exec (p.runLogged "in.txt" (some "d/l/l")) = (.ok r, s') ∧ r.written ∧
      p.Effect looped s' "in.txt" "d/l/l" content r.written := by
  intro p
  have ⟨r, s', h, hb⟩ := exec_looped p rfl rfl
  have ⟨content, he⟩ := run_touches_only_destination (.inl h)
  exact ⟨r, s', content, h, hb, he⟩

-- The path of a destination may lead through the link that is replaced; then it leads nowhere
-- after the run.
theorem destination_not_read_back :
    let p : Pruner := { config := {}, sound := by decide }
    ∃ r s', looped.exec (p.runLogged "in.txt" (some "d/l/l")) = (.ok r, s') ∧ r.written ∧
      s'.readText "d/l/l" ≠ .ok (p.config.prune "tabs\n").text := by
  intro p
  have ⟨r, s', h, hb⟩ := exec_looped p rfl rfl
  refine ⟨r, s', h, hb, fun hr => ?_⟩
  have ⟨_, he⟩ := effect_of_runLogged h
  cases looped_readText.symm.trans he.read
  have ⟨place, hw⟩ := he.placed hb
  cases looped_named?.symm.trans hw.destination
  have hx : (looped.tree.erase ["l", "d"]).Walks FileTree.maxLinks [] ["d", "l"]
      (.free ["l", "d"]) :=
    .enter (by decide) rfl <| .arrive (by decide) rfl
  have hn := (hw.reading.mp hr).resolve_left nofun
  have ⟨_, _, _, hs, _, hd, _⟩ := FileTree.named?_eq_some_iff.mp hn
  have hs' : FileTree.steps "d/l/l" = ["d", "l"] ++ ["l"] := by decide
  cases (List.append_inj' (hs'.symm.trans hs) rfl).1
  cases hx.walk.symm.trans hd.walk

end Pruner

end TabPruning

import TabPruning.CommandLine.Program
import TabPruning.Machine

namespace TabPruning.CommandLine

variable {allowed : List Switch} {x : Switch} {arg : String} {args : List String}

-- What is read with a flag more and without it: the same, or the flag is met where it is unknown.
inductive Agree (x : Switch) (items : α → List Item) (a b : α) : Prop
  | same : a = b → Agree x items a b
  | met : .flag x ∈ items a → .unusable ∈ items b → Agree x items a b

-- What was read before makes no difference.
theorem Agree.append_left {a b : List Item} (h : Agree x id a b) (read : List Item) :
    Agree x id (read ++ a) (read ++ b) := by
  cases h
  case same h => exact .same <| by rw [h]
  case met hf hu => exact .met (List.mem_append_right _ hf) (List.mem_append_right _ hu)

theorem group_agree (hx : x.takesValue = false) (cs : List Char) :
    Agree x Prod.fst (group (allowed ++ [x]) cs) (group allowed cs) := by
  induction cs
  case nil => exact .same rfl
  case cons c cs ih =>
    rw [group, group, List.find?_append]
    cases allowed.find? (·.short? = some c)
    case none =>
      by_cases hc : x.short? = some c
      case pos => exact .met (by simp [hc, hx]) (by simp)
      case neg => exact .same <| by simp [hc]
    case some s =>
      simp only [Option.some_or]
      split
      case isTrue => exact .same rfl
      case isFalse =>
        cases ih
        case same h => exact .same <| by rw [h]
        case met hf hu => exact .met (.tail _ hf) (.tail _ hu)

theorem longOption_agree (hx : x.takesValue = false) (cs : List Char) :
    Agree x Prod.fst (longOption (allowed ++ [x]) cs) (longOption allowed cs) := by
  rw [longOption, longOption, List.find?_append]
  cases allowed.find? (·.long.toList = cs.takeWhile (· ≠ '='))
  case some s => exact .same rfl
  case none =>
    by_cases hc : x.long.toList = cs.takeWhile (· ≠ '=')
    case pos =>
      cases cs.dropWhile (· ≠ '=')
      case nil => exact .met (by simp [hc, hx]) (by simp)
      case cons => exact .same <| by simp [hc, hx]
    case neg =>
      have hn : [x].find? (·.long.toList = cs.takeWhile (· ≠ '=')) = none := by simpa using hc
      rw [Option.none_or, hn]
      exact .same rfl

theorem readArgument_agree (hx : x.takesValue = false) (arg : String) :
    Agree x Prod.fst (readArgument (allowed ++ [x]) arg) (readArgument allowed arg) := by
  rw [readArgument, readArgument]
  split
  case h_1 => exact longOption_agree hx _
  case h_2 => exact group_agree hx _
  case h_3 => exact .same rfl

theorem mem_readArguments {i : Item} (ha : arg ≠ "--") (hi : i ∈ (readArgument allowed arg).1) :
    i ∈ readArguments allowed (arg :: args) := by
  rw [readArguments, if_neg ha]
  split
  case h_1 hr => rw [hr] at hi; exact List.mem_append_left _ hi
  case h_2 hr =>
    rw [hr] at hi
    split
    case h_1 => exact List.mem_append_left _ hi
    case h_2 => split <;> exact List.mem_append_left _ hi

-- Where the flag is met in the first argument, what follows does not matter.
theorem readArguments_cons_agree (hx : x.takesValue = false) (ha : arg ≠ "--")
    (h : readArgument (allowed ++ [x]) arg = readArgument allowed arg →
      Agree x id (readArguments (allowed ++ [x]) (arg :: args))
        (readArguments allowed (arg :: args))) :
    Agree x id (readArguments (allowed ++ [x]) (arg :: args))
      (readArguments allowed (arg :: args)) := by
  cases readArgument_agree hx arg
  case same he => exact h he
  case met hf hu => exact .met (mem_readArguments ha hf) (mem_readArguments ha hu)

theorem readArguments_agree (hx : x.takesValue = false) (args : List String) :
    Agree x id (readArguments (allowed ++ [x]) args) (readArguments allowed args) := by
  induction args using readArguments.induct allowed
  case case1 => exact .same rfl
  case case2 => exact .same <| by simp only [readArguments, if_true]
  case case3 arg args ha items hr ih =>
    refine readArguments_cons_agree hx ha fun he => ?_
    simp only [readArguments, if_neg ha, he, hr]
    exact ih.append_left items
  case case4 arg ha items s hr =>
    refine readArguments_cons_agree hx ha fun he => .same ?_
    simp only [readArguments, if_neg ha, he, hr]
  case case5 arg ha items s hr value args hv ih =>
    refine readArguments_cons_agree hx ha fun he => ?_
    simp only [readArguments, if_neg ha, he, hr, if_pos hv]
    exact (ih.append_left [.setting s value]).append_left items
  case case6 arg ha items s hr value args hv =>
    refine readArguments_cons_agree hx ha fun he => .same ?_
    simp only [readArguments, if_neg ha, he, hr, if_neg hv]

theorem foldlM_ne_ok_of_mem {f : σ → ι → Except ε σ} {i : ι} {items : List ι}
    (hf : ∀ o, ∃ e, f o i = .error e) (hi : i ∈ items) (o o' : σ) :
    items.foldlM f o ≠ .ok o' := by
  induction items generalizing o
  case nil => cases hi
  case cons j items ih =>
    rw [List.foldlM_cons]
    cases hi
    case head =>
      have ⟨e, he⟩ := hf o
      rw [he]
      exact nofun
    case tail hi =>
      cases f o j
      case error => exact nofun
      case ok o  => exact ih hi o

namespace PruneOptions

variable {o : PruneOptions}

theorem ofArguments_ne_ok_of_mem {i : Item} (ha : ∀ o, ∃ e, add o i = .error e)
    (hi : i ∈ readArguments allowed args) : ofArguments allowed args ≠ .ok o :=
  foldlM_ne_ok_of_mem ha hi _ _

theorem ofArguments_append_version :
    ofArguments (switches ++ [.version]) args = .ok o ↔ ofArguments switches args = .ok o := by
  have ha : Agree .version id (readArguments (switches ++ [.version]) args)
      (readArguments switches args) := readArguments_agree rfl args
  cases ha
  case same h => rw [ofArguments, ofArguments, h]
  case met hf hu =>
    have hv : ofArguments (switches ++ [.version]) args ≠ .ok o :=
      ofArguments_ne_ok_of_mem (fun _ => ⟨_, rfl⟩) hf
    have hs : ofArguments switches args ≠ .ok o :=
      ofArguments_ne_ok_of_mem (fun _ => ⟨_, rfl⟩) hu
    exact iff_of_false hv hs

end PruneOptions

namespace Command

variable {o : PruneOptions}

theorem ofArguments_prune_eq_ok_iff : ofArguments ("prune" :: args) = .ok (.prune o) ↔
    PruneOptions.ofArguments PruneOptions.switches args = .ok o ∧ o.input.isSome := by
  rw [ofArguments]
  cases PruneOptions.ofArguments PruneOptions.switches args
  case error => exact iff_of_false nofun fun h => nomatch h.1
  case ok o' =>
    simp only [Bind.bind, Except.bind]
    split
    case isTrue hi =>
      refine iff_of_false nofun ?_
      rintro ⟨⟨⟩, ho⟩
      simp [Option.isNone_iff_eq_none.mp hi] at ho
    case isFalse hi =>
      constructor
      case mp  => rintro ⟨⟩; exact ⟨rfl, by simpa [Option.isSome_iff_ne_none] using hi⟩
      case mpr => rintro ⟨⟨⟩, -⟩; rfl

theorem ofArguments_eq_ok_iff (hn : ∀ name ∈ args.head?, name ∉ commandNames) :
    ofArguments args = .ok (.prune o) ↔
      PruneOptions.ofArguments (PruneOptions.switches ++ [.version]) args = .ok o := by
  unfold ofArguments
  split
  case h_7 =>
    cases PruneOptions.ofArguments (PruneOptions.switches ++ [.version]) args
    case error => exact iff_of_false nofun nofun
    case ok    => exact ⟨fun h => by cases h; rfl, fun h => by cases h; rfl⟩
  all_goals exact absurd (by decide) (hn _ rfl)

end Command

-- Arguments that name no command say the same whether or not the name of pruning stands before
-- them, provided that they have an input; so the program does the same with them.
theorem default_command_is_prune (hn : ∀ name ∈ args.head?, name ∉ commandNames) :
    (∀ o, Command.ofArguments ("prune" :: args) = .ok (.prune o) ↔
      Command.ofArguments args = .ok (.prune o) ∧ o.input.isSome) ∧
    ∀ o, Command.ofArguments args = .ok (.prune o) → o.input.isSome → ∀ s : Machine,
      (run ("prune" :: args) : MachineM _).run s = (run args : MachineM _).run s := by
  have h (o : PruneOptions) : Command.ofArguments ("prune" :: args) = .ok (.prune o) ↔
      Command.ofArguments args = .ok (.prune o) ∧ o.input.isSome := by
    rw [Command.ofArguments_prune_eq_ok_iff, Command.ofArguments_eq_ok_iff hn,
      PruneOptions.ofArguments_append_version]
  refine ⟨h, fun o ho hi s => ?_⟩
  rw [run, run, (h o).mpr ⟨ho, hi⟩, ho]

-- The input may have the name of a command itself.
theorem default_command_is_prune_with_input_prune :
    let args := ["-nl", "debug", "-o=x", "--", "prune"]
    let o : PruneOptions :=
      { input := some "prune", output := some "x"
        overrides := { dryRun := true, logLevel := some .debug } }
    (∀ name ∈ args.head?, name ∉ commandNames) ∧ Command.ofArguments args = .ok (.prune o) ∧
      Command.ofArguments ("prune" :: args) = .ok (.prune o) ∧
      ∀ s : Machine,
        (run ("prune" :: args) : MachineM _).run s = (run args : MachineM _).run s := by
  intro args o
  have hn : ∀ name ∈ args.head?, name ∉ commandNames := by decide
  have ho : Command.ofArguments args = .ok (.prune o) := by rfl
  have ⟨hp, hr⟩ := default_command_is_prune hn
  exact ⟨hn, ho, (hp o).mpr ⟨ho, rfl⟩, hr o ho rfl⟩

end TabPruning.CommandLine

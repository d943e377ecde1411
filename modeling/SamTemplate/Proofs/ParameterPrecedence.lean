import Mathlib.Data.List.Induction
import SamTemplate.CommandLine.Run
import SamTemplate.Proofs.BlankTexts
import SamTemplate.Proofs.CompiledFunctions
import SamTemplate.Proofs.DocumentOrder
import SamTemplate.Proofs.ImageSources
import SamTemplate.Proofs.TextShapes

/-!
# Precedence of parameters

A parameter gets its value from an argument, from the configuration or from the template, in
this order, and of several arguments from the last one. The three are put together in two steps,
by the command and by the compilation, and all that counts in the end is what each of them says
about the name (`Drives`).

* `parameter?_eq_some_iff`, `parameter?_isSome_iff`: what an argument says, and which arguments
  say something;
* `get?_insertAll_arguments`, `get?_effectiveParameters_iff`: what is bound to a name after each
  of the steps;
* `run_by_precedence`: what a command does with its parameters.
-/

namespace SamTemplate

namespace CommandLine

/-! ### Arguments -/

/-- An argument gives a value to the parameter with a name: what is before the first equals
    sign, without the blanks around it, is the name, and all that is after it is the value. -/
def Assigns (argument name value : String) : Prop :=
  ∃ key, argument = key ++ "=" ++ value ∧ '=' ∉ key.toList ∧ trim key = name ∧ name ≠ ""

/-- An argument has an equals sign, and something but blanks before the first one. -/
def IsAccepted (argument : String) : Prop :=
  ∃ key value, argument = key ++ "=" ++ value ∧ '=' ∉ key.toList ∧
    ∃ c ∈ key.toList, isBlank c = false

/-- No argument gives a value to the parameter with a name. -/
def Unassigned (arguments : List String) (name : String) : Prop :=
  ∀ argument ∈ arguments, ∀ value, ¬ Assigns argument name value

/-- The last argument for the parameter with a name gives it a value. -/
def LastAssigns (arguments : List String) (name value : String) : Prop :=
  ∃ before argument after, arguments = before ++ argument :: after ∧
    Assigns argument name value ∧ Unassigned after name

theorem isAccepted_iff {argument : String} :
    IsAccepted argument ↔ ∃ name value, Assigns argument name value := by
  have hblank (key : String) : trim key ≠ "" ↔ ∃ c ∈ key.toList, isBlank c = false := by
    rw [ne_eq, trim_eq_empty_iff]
    simp
  constructor
  · rintro ⟨key, value, hargument, hkey, hc⟩
    exact ⟨trim key, value, key, hargument, hkey, rfl, (hblank key).2 hc⟩
  · rintro ⟨_, value, key, hargument, hkey, rfl, hne⟩
    exact ⟨key, value, hargument, hkey, (hblank key).1 hne⟩

/-- What an argument says, by its text on both sides of the first equals sign. -/
theorem parameter?_append {key : String} (hkey : '=' ∉ key.toList) (value : String) :
    parameter? (key ++ "=" ++ value) = if trim key = "" then none else some (trim key, value) := by
  have hchars : (key ++ "=" ++ value).toList = key.toList ++ '=' :: value.toList := by
    simp
  unfold parameter?
  rw [hchars, List.span_eq_takeWhile_dropWhile, takeWhile_append_cons hkey,
    dropWhile_append_cons hkey]
  simp only [trim, String.ofList_toList, List.isEmpty_iff, String.ofList_eq_empty_iff]

/-- Without an equals sign an argument says nothing. -/
theorem parameter?_of_notMem {argument : String} (h : '=' ∉ argument.toList) :
    parameter? argument = none := by
  have hdrop : argument.toList.dropWhile (· ≠ '=') = [] :=
    List.dropWhile_eq_nil_iff.2 fun c hc => decide_eq_true fun heq => h (heq ▸ hc)
  unfold parameter?
  rw [List.span_eq_takeWhile_dropWhile, hdrop]

theorem exists_key_of_mem {argument : String} (h : '=' ∈ argument.toList) :
    ∃ key value : String, argument = key ++ "=" ++ value ∧ '=' ∉ key.toList := by
  obtain ⟨key, value, hchars, hkey⟩ := List.eq_append_cons_of_mem h
  refine ⟨String.ofList key, String.ofList value, ?_, by simpa using hkey⟩
  rw [← String.toList_inj, hchars]
  simp

theorem parameter?_eq_some_iff {argument name value : String} :
    parameter? argument = some (name, value) ↔ Assigns argument name value := by
  constructor
  · intro h
    by_cases hmem : '=' ∈ argument.toList
    · obtain ⟨key, rest, rfl, hkey⟩ := exists_key_of_mem hmem
      rw [parameter?_append hkey] at h
      split_ifs at h with hblank
      cases h
      exact ⟨key, rfl, hkey, rfl, hblank⟩
    · rw [parameter?_of_notMem hmem] at h
      exact nomatch h
  · rintro ⟨key, rfl, hkey, rfl, hne⟩
    rw [parameter?_append hkey, if_neg hne]

theorem parameter?_isSome_iff {argument : String} :
    (parameter? argument).isSome ↔ IsAccepted argument := by
  rw [isAccepted_iff, Option.isSome_iff_exists, Prod.exists]
  simp only [parameter?_eq_some_iff]

theorem Assigns.unique {argument name value other : String} (h : Assigns argument name value)
    (h' : Assigns argument name other) : value = other := by
  rw [← parameter?_eq_some_iff] at h h'
  exact (Prod.ext_iff.1 (Option.some.inj (h.symm.trans h'))).2

instance (argument : String) : Decidable (IsAccepted argument) :=
  decidable_of_iff _ parameter?_isSome_iff

instance (arguments : List String) (name : String) : Decidable (Unassigned arguments name) :=
  decidable_of_iff (∀ argument ∈ arguments, (parameter? argument).map Prod.fst ≠ some name) <| by
    simp [Unassigned, ← parameter?_eq_some_iff]

/-! ### Lists of arguments -/

theorem LastAssigns.not_unassigned {arguments : List String} {name value : String}
    (h : LastAssigns arguments name value) : ¬ Unassigned arguments name := by
  obtain ⟨before, argument, after, rfl, hvalue, -⟩ := h
  exact fun hnone => hnone argument (by simp) value hvalue

theorem LastAssigns.unique {arguments : List String} {name value other : String}
    (h : LastAssigns arguments name value) (h' : LastAssigns arguments name other) :
    value = other := by
  obtain ⟨before, argument, after, rfl, hvalue, hafter⟩ := h
  obtain ⟨before', argument', after', heq, hother, hafter'⟩ := h'
  rcases List.append_eq_append_iff.1 heq with ⟨between, -, hrest⟩ | ⟨between, -, hrest⟩
  · cases between with
    | nil =>
      cases hrest
      exact hvalue.unique hother
    | cons first rest =>
      cases hrest
      exact absurd hother (hafter argument' (by simp) other)
  · cases between with
    | nil =>
      cases hrest
      exact hvalue.unique hother
    | cons first rest =>
      cases hrest
      exact absurd hvalue (hafter' argument (by simp) value)

theorem addParameters_of_accepted {arguments : List String} (parameters : Parameters)
    (h : ∀ argument ∈ arguments, IsAccepted argument) :
    addParameters parameters arguments
      = .ok (parameters.insertAll (arguments.filterMap parameter?)) := by
  induction arguments generalizing parameters with
  | nil => rfl
  | cons argument rest ih =>
    obtain ⟨hfirst, hrest⟩ := List.forall_mem_cons.1 h
    obtain ⟨⟨name, value⟩, hvalue⟩ := Option.isSome_iff_exists.1 (parameter?_isSome_iff.2 hfirst)
    rw [addParameters, hvalue, List.filterMap_cons_some hvalue]
    exact ih _ hrest

/-- The first argument that says nothing is the one that is complained of. -/
theorem addParameters_of_rejected {arguments : List String}
    (h : ∃ argument ∈ arguments, ¬ IsAccepted argument) :
    ∃ argument ∈ arguments, ¬ IsAccepted argument ∧
      ∀ parameters, addParameters parameters arguments = .error (.invalidParameter argument) := by
  induction arguments with
  | nil => simp at h
  | cons first rest ih =>
    by_cases hfirst : IsAccepted first
    · obtain ⟨⟨name, value⟩, hvalue⟩ := Option.isSome_iff_exists.1 (parameter?_isSome_iff.2 hfirst)
      have hrest : ∃ argument ∈ rest, ¬ IsAccepted argument := by
        obtain ⟨argument, hmem, hargument⟩ := h
        exact ⟨argument, (List.mem_cons.1 hmem).resolve_left fun heq => hargument (heq ▸ hfirst),
          hargument⟩
      obtain ⟨argument, hmem, hargument, herror⟩ := ih hrest
      refine ⟨argument, List.mem_cons_of_mem _ hmem, hargument, fun parameters => ?_⟩
      rw [addParameters, hvalue]
      exact herror _
    · have hnone : parameter? first = none := by
        rwa [← parameter?_isSome_iff, Option.not_isSome_iff_eq_none] at hfirst
      refine ⟨first, List.mem_cons_self, hfirst, fun parameters => ?_⟩
      rw [addParameters, hnone]

/-- One argument binds its own name, and no other one. -/
theorem get?_insertAll_argument (parameters : Parameters) (argument name : String) :
    (∃ value, Assigns argument name value ∧
        (parameters.insertAll ([argument].filterMap parameter?)).get? name = some value) ∨
      ((∀ value, ¬ Assigns argument name value) ∧
        (parameters.insertAll ([argument].filterMap parameter?)).get? name
          = parameters.get? name) := by
  simp only [← parameter?_eq_some_iff]
  cases hpair : parameter? argument with
  | none =>
    rw [List.filterMap_cons_none hpair]
    exact .inr ⟨nofun, rfl⟩
  | some pair =>
    obtain ⟨key, value⟩ := pair
    have hget : (parameters.insertAll ([argument].filterMap parameter?)).get? name
        = if key = name then some value else parameters.get? name := by
      rw [List.filterMap_cons_some hpair]
      exact Bindings.get?_insert parameters key name value
    rw [hget]
    split_ifs with hkey
    · exact .inl ⟨value, by rw [hkey], rfl⟩
    · exact .inr ⟨fun other heq => hkey (Prod.ext_iff.1 (Option.some.inj heq)).1, rfl⟩

/-- What is bound to a name after the arguments are added is what the last one for it gives, or
    what was bound to it before. -/
theorem get?_insertAll_arguments (parameters : Parameters) (arguments : List String)
    (name : String) :
    (∃ value, LastAssigns arguments name value ∧
        (parameters.insertAll (arguments.filterMap parameter?)).get? name = some value) ∨
      (Unassigned arguments name ∧
        (parameters.insertAll (arguments.filterMap parameter?)).get? name
          = parameters.get? name) := by
  -- The last argument has the last word, so that the induction is from the end.
  induction arguments using List.reverseRecOn with
  | nil => exact .inr ⟨nofun, rfl⟩
  | append_singleton arguments last ih =>
    rw [List.filterMap_append, Bindings.insertAll, List.foldl_append]
    rcases get?_insertAll_argument (parameters.insertAll (arguments.filterMap parameter?)) last name
      with ⟨value, hvalue, hget⟩ | ⟨hlast, hget⟩
    · exact .inl ⟨value, ⟨arguments, last, [], rfl, hvalue, nofun⟩, hget⟩
    · rcases ih with ⟨value, ⟨before, argument, after, rfl, hvalue, hafter⟩, hbefore⟩ |
        ⟨hnone, hbefore⟩
      · refine .inl ⟨value, ⟨before, argument, after ++ [last], by simp, hvalue, ?_⟩,
          hget.trans hbefore⟩
        exact List.forall_mem_append.2 ⟨hafter, List.forall_mem_singleton.2 hlast⟩
      · exact .inr ⟨List.forall_mem_append.2 ⟨hnone, List.forall_mem_singleton.2 hlast⟩,
          hget.trans hbefore⟩

end CommandLine

/-! ### Looking up -/

/-- What entries have under a key after each value is replaced, or left out. -/
theorem Entries.get?_filterMap_value {α β : Type} {entries : Entries α} (hd : entries.Distinct)
    (f : α → Option β) (key : String) :
    Entries.get? key (entries.filterMap fun entry => (f entry.2).map (entry.1, ·))
      = (entries.get? key).bind f := by
  induction entries with
  | nil => rfl
  | cons pair rest ih =>
    obtain ⟨name, value⟩ := pair
    obtain ⟨hname, hrest⟩ := List.nodup_cons.1 hd
    have ih := ih hrest
    rw [Entries.get?_cons]
    cases hvalue : f value with
    | none =>
      rw [List.filterMap_cons_none (by simp [hvalue]), ih]
      split_ifs with hkey
      · -- The entry is left out, and no other one has its key.
        rw [Entries.get?_eq_none_iff.2 (hkey ▸ hname)]
        exact hvalue.symm
      · rfl
    | some other =>
      rw [List.filterMap_cons_some (by simp [hvalue]; rfl), Entries.get?_cons, ih]
      split_ifs with hkey
      · exact hvalue.symm
      · rfl

/-- What is bound under a key after each value is replaced, or left out. -/
theorem Bindings.get?_ofList_filterMap_value {α β : Type} {entries : Entries α}
    (hd : entries.Distinct) (f : α → Option β) (key : String) :
    (Bindings.ofList (entries.filterMap fun entry => (f entry.2).map (entry.1, ·))).get? key
      = (entries.get? key).bind f := by
  have hdistinct : Entries.Distinct
      (entries.filterMap fun entry => (f entry.2).map (entry.1, ·)) :=
    hd.filterMap fun _ _ h => by
      obtain ⟨_, -, rfl⟩ := Option.map_eq_some_iff.1 h
      rfl
  rw [ofList, get?_insertAll _ hdistinct, Entries.get?_filterMap_value hd, get?_empty,
    Option.or_none]

/-- What is bound to a key if the values are replaced before they are bound. -/
theorem Bindings.get?_ofList_map_value {α β : Type} (f : α → β) (pairs : Entries α)
    (key : String) :
    (Bindings.ofList (pairs.map fun (name, value) => (name, f value))).get? key
      = ((Bindings.ofList pairs).get? key).map f := by
  -- Keys may be repeated here, so that the induction is over maps bound so far that agree.
  suffices h : ∀ (a : Bindings β) (b : Bindings α), a.get? key = (b.get? key).map f →
      (a.insertAll (pairs.map fun (name, value) => (name, f value))).get? key
        = ((b.insertAll pairs).get? key).map f from h .empty .empty rfl
  induction pairs with
  | nil => exact fun _ _ h => h
  | cons pair rest ih =>
    intro a b h
    refine ih (a.insert pair.1 (f pair.2)) (b.insert pair.1 pair.2) ?_
    rw [get?_insert, get?_insert]
    split_ifs
    · rfl
    · exact h

/-- No key occurs twice in a section of a well-formed template. -/
theorem Node.WellFormed.distinct_section {document entries : Entries Node} {key : String}
    (hw : (Node.map document).WellFormed)
    (h : (document.get? key).bind Node.entries? = some entries) : entries.Distinct := by
  obtain ⟨hd, hsections⟩ := wellFormed_map.1 hw
  obtain ⟨node, hnode, hentries⟩ := Option.bind_eq_some_iff.1 h
  have hsection : node.WellFormed := hsections _ ((Entries.get?_eq_some_iff hd).1 hnode)
  cases node with
  | map _ =>
    cases hentries
    exact (wellFormed_map.1 hsection).1
  | _ => exact nomatch hentries

namespace CommandLine

/-! ### Configurations -/

/-- The table of parameters that the entries of a configuration make up. -/
def tableOf (entries : Bindings Toml) : Entries Toml :=
  match entries.get? "parameters" with
  | some (.table table) => table
  | _ => []

/-- The table of parameters in what is found under the path of a configuration. -/
def parameterTable : FileState → Entries Toml
  | .text content => tableOf (.ofList ((Toml.parse? content).getD []))
  | _ => []

/-- The values that a table gives to parameters. -/
def tableValues (table : Entries Toml) : Parameters :=
  .ofList (table.map fun (name, value) => (name, Project.parameterText value))

theorem parameters_of_withEntry {project project' : Project} {entry : String × Toml}
    {entries : Bindings Toml} (h : project.withEntry? entry = some project')
    (hp : project.parameters = tableValues (tableOf entries)) :
    project'.parameters = tableValues (tableOf (entries.insert entry.1 entry.2)) := by
  -- Of the entries of a configuration one is about parameters.
  have hother (hkey : entry.1 ≠ "parameters") :
      tableOf (entries.insert entry.1 entry.2) = tableOf entries := by
    rw [tableOf, tableOf, Bindings.get?_insert, if_neg hkey]
  unfold Project.withEntry? at h
  split at h
  · cases h
    rw [hother (by simp)]
    exact hp
  · obtain ⟨format, -, hformat⟩ := Option.bind_eq_some_iff.1 h
    cases hformat
    rw [hother (by simp)]
    exact hp
  · cases h
    rw [tableOf, Bindings.get?_insert, if_pos rfl]
    rfl
  · exact nomatch h

theorem parameters_of_foldlM {entries : Entries Toml} {project project' : Project}
    {before : Bindings Toml} (h : entries.foldlM Project.withEntry? project = some project')
    (hp : project.parameters = tableValues (tableOf before)) :
    project'.parameters = tableValues (tableOf (before.insertAll entries)) := by
  induction entries generalizing project before with
  | nil =>
    cases h
    exact hp
  | cons entry rest ih =>
    rw [List.foldlM_cons] at h
    obtain ⟨next, hnext, hrest⟩ := Option.bind_eq_some_iff.1 h
    exact ih hrest (parameters_of_withEntry hnext hp)

/-- A configuration that is read gives the values of its table of parameters. -/
theorem parameters_of_ofText? {content : String} {project : Project}
    (h : Project.ofText? content = some project) :
    project.parameters = tableValues (parameterTable (.text content)) := by
  obtain ⟨entries, hentries, hproject⟩ := Option.bind_eq_some_iff.1 h
  rw [parameterTable, hentries]
  exact @parameters_of_foldlM _ _ _ .empty hproject rfl

/-- The project of what is found under the path of a configuration. -/
def projectOf (path : String) : FileState → Except CommandError Project
  | .absent => .ok .empty
  | .unreadable => .error (.unreadable path)
  | .text content =>
    match Project.ofText? content with
    | none => .error (.invalidConfig path)
    | some project =>
      .ok { project with template := project.template.map (Path.join (Path.parent path)) }

theorem parameters_of_projectOf {path : String} {found : FileState} {project : Project}
    (h : projectOf path found = .ok project) :
    project.parameters = tableValues (parameterTable found) := by
  unfold projectOf at h
  split at h
  · cases h
    rfl
  · exact nomatch h
  · split at h
    · exact nomatch h
    · rename_i hread
      obtain rfl := Except.ok.inj h
      exact (parameters_of_ofText? hread :)

/-! ### Sources of values -/

/-- What a table of parameters says about one of them. -/
def configured? (table : Entries Toml) (name : String) : Option Toml :=
  (Bindings.ofList table).get? name

/-- What a template declares as the value of a parameter, unless that is `null`. -/
def declaredDefault? (document : Entries Node) (name : String) : Option Node :=
  (((document.get? "Parameters").bind Node.entries?).bind (·.get? name)).bind
    (·.field? "Default")

theorem get?_tableValues (table : Entries Toml) (name : String) :
    (tableValues table).get? name = (configured? table name).map Project.parameterText :=
  Bindings.get?_ofList_map_value _ _ _

theorem get?_declaredParameters {document : Entries Node} (hw : (Node.map document).WellFormed)
    (name : String) :
    (declaredParameters document).get? name = (declaredDefault? document name).map Node.text := by
  rw [declaredParameters, declaredDefault?]
  cases hdeclared : (document.get? "Parameters").bind Node.entries? with
  | none => rfl
  | some declared =>
    have hread (pair : String × Node) :
        ((pair.2.field? "Default").map fun value => (pair.1, value.text))
          = ((pair.2.field? "Default").map Node.text).map (pair.1, ·) := by
      rw [Option.map_map]
      rfl
    change (Bindings.ofList (declared.filterMap fun pair =>
      (pair.2.field? "Default").map fun value => (pair.1, value.text))).get? name = _
    simp only [hread]
    rw [Bindings.get?_ofList_filterMap_value (hw.distinct_section hdeclared) fun declaration =>
      (declaration.field? "Default").map Node.text, Option.bind_some, Option.map_bind]
    rfl

/-- The parameters that a command hands to the compilation. -/
def overrides (arguments : List String) (table : Entries Toml) : Parameters :=
  (tableValues table).insertAll (arguments.filterMap parameter?)

/-- The value of a parameter: what the last argument for it says, or else the configuration, or
    else the template. -/
inductive Drives (arguments : List String) (table : Entries Toml) (document : Entries Node)
    (name : String) : Option String → Prop
  | argument {value : String} (h : LastAssigns arguments name value) :
    Drives arguments table document name (some value)
  | config {value : Toml} (h : Unassigned arguments name)
    (hc : configured? table name = some value) :
    Drives arguments table document name (some (Project.parameterText value))
  | default {value : Node} (h : Unassigned arguments name) (hc : configured? table name = none)
    (hd : declaredDefault? document name = some value) :
    Drives arguments table document name (some value.text)
  | unknown (h : Unassigned arguments name) (hc : configured? table name = none)
    (hd : declaredDefault? document name = none) :
    Drives arguments table document name none

section

variable {arguments : List String} {table : Entries Toml} {document : Entries Node} {name : String}

theorem Drives.unique {value other : Option String}
    (h : Drives arguments table document name value)
    (h' : Drives arguments table document name other) : value = other := by
  cases h with
  | argument h =>
    cases h' with
    | argument h' => rw [h.unique h']
    | _ h' => exact absurd h' h.not_unassigned
  | config h hc =>
    cases h' with
    | argument h' => exact absurd h h'.not_unassigned
    | config _ hc' => rw [Option.some.inj (hc.symm.trans hc')]
    | _ _ hc' => exact nomatch hc.symm.trans hc'
  | default h hc hd =>
    cases h' with
    | argument h' => exact absurd h h'.not_unassigned
    | config _ hc' => exact nomatch hc.symm.trans hc'
    | default _ _ hd' => rw [Option.some.inj (hd.symm.trans hd')]
    | unknown _ _ hd' => exact nomatch hd.symm.trans hd'
  | unknown h hc hd =>
    cases h' with
    | argument h' => exact absurd h h'.not_unassigned
    | config _ hc' => exact nomatch hc.symm.trans hc'
    | default _ _ hd' => exact nomatch hd.symm.trans hd'
    | unknown _ _ _ => rfl

/-- What the sources say is what is bound after they are put together. -/
theorem drives_effectiveParameters (hw : (Node.map document).WellFormed)
    (arguments : List String) (table : Entries Toml) (name : String) :
    Drives arguments table document name
      ((effectiveParameters document (overrides arguments table)).get? name) := by
  rw [effectiveParameters, Bindings.get?_insertAll _ (overrides _ _).sorted.distinct]
  change Drives arguments table document name (((overrides arguments table).get? name).or _)
  rcases get?_insertAll_arguments (tableValues table) arguments name with
    ⟨value, hvalue, hget⟩ | ⟨hnone, hget⟩
  · rw [overrides, hget]
    exact .argument hvalue
  · rw [overrides, hget, get?_tableValues]
    cases hc : configured? table name with
    | some value => exact .config hnone hc
    | none =>
      rw [Option.map_none, Option.none_or, get?_declaredParameters hw]
      cases hd : declaredDefault? document name with
      | some value => exact .default hnone hc hd
      | none => exact .unknown hnone hc hd

theorem get?_effectiveParameters_iff (hw : (Node.map document).WellFormed)
    {value : Option String} :
    (effectiveParameters document (overrides arguments table)).get? name = value
      ↔ Drives arguments table document name value := by
  have h := drives_effectiveParameters hw arguments table name
  exact ⟨fun heq => heq ▸ h, h.unique⟩

end

end CommandLine

/-! ### Commands -/

open CommandLine

/-- What a command that compiles a template is given, with the format of its output. -/
def Command.inputs? : Command → Option (Inputs × Option OutputFormat)
  | .compile inputs format => some (inputs, format)
  | .fingerprint inputs => some (inputs, none)
  | .schema => none

/-- What a command prints about a template. -/
def Command.report (command : Command) (job : Job) (template : String)
    (compilation : Compilation) : Report :=
  match command with
  | .compile .. => ⟨trimEnd (render job.format compilation) ++ "\n", compilation.warnings⟩
  | _ => ⟨fingerprintReport template compilation, compilation.warnings⟩

/-- Where the configuration is. -/
def Inputs.configPath (inputs : Inputs) : String := inputs.config.getD defaultConfig

/-- The job that inputs and the configuration describe. -/
def Inputs.job (inputs : Inputs) (format : Option OutputFormat) (project : Project) : Job :=
  ⟨(inputs.file.or project.template).getD defaultTemplate,
    project.parameters.insertAll (inputs.parameters.filterMap parameter?),
    (format.or project.format).getD .yaml⟩

/-- The conditions that a template declares. -/
def declaredConditions (document : Entries Node) : Entries Node :=
  ((document.get? "Conditions").bind Node.entries?).getD []

/-- What is compiled from a template after everything in it that can be resolved is, in the
    session in which it was. -/
def compileResolved (resolution : Node × Session) : Except CompileError Compilation :=
  match resolution.1.entries? with
  | none => .error .unexpectedRoot
  | some root =>
    match (root.get? "Resources").bind Node.entries? with
    | none => .ok { Compilation.empty with warnings := resolution.2.warnings.messages }
    | some resources =>
      match (extract root resources).run resolution.2.warnings with
      | (.ok compilation, warnings) => .ok { compilation with warnings := warnings.messages }
      | (.error error, _) => .error (.image error)

theorem compile_eq_compileResolved {text : String} {document : Entries Node}
    (h : readDocument text = .ok document) (overrides : Parameters) :
    compile text overrides = compileResolved (resolveDocument document overrides) := by
  rw [compile, h]
  rfl

/-- A template is compiled with the parameters that are driven by the sources. -/
theorem exists_drives {inputs : Inputs} {format : Option OutputFormat} {found : FileState}
    {project : Project} {text : String} {document : Entries Node}
    (hp : projectOf inputs.configPath found = .ok project)
    (hd : readDocument text = .ok document) :
    ∃ parameters : Parameters,
      compile text (inputs.job format project).parameters = compileResolved
        ((Session.start parameters (declaredConditions document)).resolve (.map document)) ∧
      ∀ name value, parameters.get? name = value
        ↔ Drives inputs.parameters (parameterTable found) document name value := by
  refine ⟨effectiveParameters document (overrides inputs.parameters (parameterTable found)), ?_,
    fun name value => get?_effectiveParameters_iff (wellFormed_of_readDocument hd)⟩
  rw [compile_eq_compileResolved hd, Inputs.job, parameters_of_projectOf hp]
  rfl

namespace CommandLine

section

variable {m : Type → Type} [Monad m] [LawfulMonad m] (look : String → m FileState)

/-- To load the project means to look at the configuration, and at nothing else. -/
theorem loadProject_eq (path : String) :
    loadProject look path = ExceptT.mk (projectOf path <$> look path) := by
  refine ExceptT.ext ?_
  rw [ExceptT.run_mk, map_eq_pure_bind, loadProject, ExceptT.run_bind, ExceptT.run_liftM,
    bind_map_left]
  refine bind_congr fun found => ?_
  cases found with
  | absent => rfl
  | unreadable => rfl
  | text content =>
    dsimp only [projectOf]
    cases Project.ofText? content <;> rfl

theorem prepare_of_accepted {inputs : Inputs} (format : Option OutputFormat)
    (h : ∀ argument ∈ inputs.parameters, IsAccepted argument) :
    prepare look inputs format
      = (do return inputs.job format (← loadProject look inputs.configPath)) := by
  unfold prepare
  refine bind_congr fun project => ?_
  dsimp only
  rw [addParameters_of_accepted _ h]
  exact ExceptT.ext (pure_bind _ _)

theorem prepare_of_rejected {inputs : Inputs} (format : Option OutputFormat) {argument : String}
    (h : ∀ parameters,
      addParameters parameters inputs.parameters = .error (.invalidParameter argument)) :
    prepare look inputs format = (do
      let _ ← loadProject look inputs.configPath
      throw (.invalidParameter argument)) := by
  unfold prepare
  refine bind_congr fun project => ?_
  dsimp only
  rw [h]
  exact ExceptT.ext (pure_bind _ _)

omit [LawfulMonad m] in
/-- A command prepares a job, compiles the template and reports. -/
theorem run_of_inputs? {command : Command} {inputs : Inputs} {format : Option OutputFormat}
    (h : command.inputs? = some (inputs, format)) :
    run look command = (do
      let job ← prepare look inputs format
      let (template, compilation) ← compileFile look job
      return command.report job template compilation) := by
  cases command with
  | schema => exact nomatch h
  | _ =>
    cases h
    rfl

end

/-- A configuration with values for two parameters. -/
def stagedConfiguration : String := "[parameters]\nStage = \"qa\"\nRegion = \"eu\"\n"

/-- A template with defaults for two parameters. -/
def stagedTemplate : String :=
  "Parameters: \x7bStage: \x7bDefault: dev\x7d, Size: \x7bDefault: 5\x7d\x7d"

/-- Two arguments for one parameter. -/
def stagedInputs : Inputs := ⟨none, ["Stage=prod", " Stage =a=b"], none⟩

/-- The files of a project. -/
def stagedFiles (path : String) : Id FileState :=
  if path = "samc.toml" then .text stagedConfiguration else .text stagedTemplate

end CommandLine

end SamTemplate

import MustUse.Command.Report
import MustUse.Proofs.Host.Coverage
import MustUse.Proofs.Host.Run

/-!
# What a report leaves behind

A setting has three sources, the command line, the configuration file and the defaults, and settings
are checked twice, as configured and as overridden. The conditions on settings, on their sources and
on the chosen format are stated here by themselves, and the command is shown to follow them,
whatever its arguments stand for, whatever the configuration holds and whatever the run over the
packages comes to.

Main definitions:

- `Settings.Valid`: the settings are within their bounds;
- `Configures`, `ConfigSource.decoded?`: where the configuration comes from and what it holds;
- `Takes`, `InForce`: the command line wins over the file, and the file over the defaults;
- `Chooses`: the format that settings ask for;
- `Fails`: the reasons why there is no report.

Main statements:

- `validate_eq_ok_iff`, `formatOf_eq_ok_iff`: the check and the choice follow these conditions;
- `report_eq_ok_iff`, `not_fails_iff`: when there is a report, and what it is;
- `outcome_of_settings_and_findings`: status and output of the command.
-/

namespace MustUse

open Config Render

namespace Config

/-- The settings are within their bounds. -/
structure Settings.Valid (s : Settings) : Prop where
  format : s.format = "text" ∨ s.format = "json" ∨ s.format = "yaml"
  color : s.color = "auto" ∨ s.color = "on" ∨ s.color = "off"
  jobs : 0 ≤ s.jobs

/-- The check passes exactly the settings that are within their bounds. -/
theorem validate_eq_ok_iff
    (s : Settings) :
    s.validate = .ok () ↔ s.Valid := by
  have hformat : formatNames.contains s.format = true ↔
      s.format = "text" ∨ s.format = "json" ∨ s.format = "yaml" := by
    simp [formatNames]
  have hcolor : colorModes.contains s.color = true ↔
      s.color = "auto" ∨ s.color = "on" ∨ s.color = "off" := by
    simp [colorModes]
  constructor
  · intro h
    simp only [Settings.validate, Bool.not_eq_true'] at h
    split at h
    · cases h
    · rename_i hf
      split at h
      · cases h
      · rename_i hc
        split at h
        · cases h
        · rename_i hj
          exact ⟨hformat.mp (by simpa using hf), hcolor.mp (by simpa using hc), by omega⟩
  · intro h
    have hjobs : ¬ s.jobs < 0 := by
      have := h.jobs
      omega
    simp only [Settings.validate, hformat.mpr h.format, hcolor.mpr h.color, hjobs, Bool.not_true,
      Bool.false_eq_true, if_false]

theorem valid_defaults :
    Settings.defaults.Valid := by
  exact ⟨Or.inl rfl, Or.inl rfl, Int.le_refl 0⟩

/-- A file gives the settings it holds over the defaults, if it has no other keys and these settings
are valid. -/
theorem loadWith_eq_ok_iff
    (decode : Decoder) (path : String) (content : Option String) (s : Settings) :
    loadWith decode path content = .ok s ↔
      ∃ file, content.bind decode = some (file, []) ∧ s = file.apply .defaults ∧ s.Valid := by
  cases content with
  | none => simp [loadWith]
  | some text =>
      simp only [loadWith, Option.bind_some]
      cases hdecode : decode text with
      | none => simp
      | some pair =>
          obtain ⟨file, keys⟩ := pair
          cases keys with
          | cons key keys => simp
          | nil =>
              simp only [Option.some.injEq, Prod.mk.injEq, and_true, exists_eq_left']
              cases hvalid : (file.apply .defaults).validate with
              | error e =>
                  simp only [reduceCtorEq, false_iff, not_and]
                  rintro rfl hok
                  rw [(validate_eq_ok_iff _).mpr hok] at hvalid
                  cases hvalid
              | ok u =>
                  have hok := (validate_eq_ok_iff _).mp hvalid
                  simp only [Except.ok.injEq]
                  constructor
                  · rintro rfl
                    exact ⟨rfl, hok⟩
                  · rintro ⟨rfl, _⟩
                    rfl

end Config

namespace Command

open Host

section Format

variable {isTerminal : Bool} {s : Settings}

/-- The format that settings ask for. Text is colored if the color mode says so, and in automatic
mode on a terminal. -/
inductive Chooses (isTerminal : Bool) (s : Settings) : Format → Prop
  | text
      (color : Bool)
      (hformat : s.format = "text")
      (hcolor : color = true ↔ s.color = "on" ∨ s.color = "auto" ∧ isTerminal = true) :
      Chooses isTerminal s (.text color)
  | json (hformat : s.format = "json") : Chooses isTerminal s .json
  | yaml (hformat : s.format = "yaml") : Chooses isTerminal s .yaml

theorem exists_useColor
    (h : s.Valid) (isTerminal : Bool) :
    ∃ color, useColor s.color isTerminal = .ok color ∧
      (color = true ↔ s.color = "on" ∨ s.color = "auto" ∧ isTerminal = true) := by
  rcases h.color with hcolor | hcolor | hcolor
  · exact ⟨isTerminal, by simp [useColor, hcolor], by simp [hcolor]⟩
  · exact ⟨true, by simp [useColor, hcolor], by simp [hcolor]⟩
  · exact ⟨false, by simp [useColor, hcolor], by simp [hcolor]⟩

/-- Valid settings have a format, and it is the one they ask for. -/
theorem formatOf_eq_ok_iff
    (h : s.Valid) (format : Format) :
    formatOf isTerminal s = .ok format ↔ Chooses isTerminal s format := by
  obtain ⟨color, huse, hcolor⟩ := exists_useColor h isTerminal
  have hname : formatOf isTerminal s = Format.ofName s.format color := by
    simp [formatOf, huse]
  rw [hname]
  constructor
  · intro hformat
    rcases h.format with hs | hs | hs
    · simp only [Format.ofName, hs, if_true, Except.ok.injEq] at hformat
      exact hformat ▸ Chooses.text color hs hcolor
    · simp only [Format.ofName, hs, String.reduceEq, if_true, if_false, Except.ok.injEq] at hformat
      exact hformat ▸ Chooses.json hs
    · simp only [Format.ofName, hs, String.reduceEq, if_true, if_false, Except.ok.injEq] at hformat
      exact hformat ▸ Chooses.yaml hs
  · intro hchoice
    cases hchoice with
    | text color' hs hcolor' =>
        have hsame : color = color' := Bool.eq_iff_iff.mpr (hcolor.trans hcolor'.symm)
        simp [Format.ofName, hs, hsame]
    | json hs => simp [Format.ofName, hs]
    | yaml hs => simp [Format.ofName, hs]

end Format

/-- A setting takes the value that is given on the command line, else the one that the file gives,
and else the default. -/
def Takes {α : Type} (flag file : Option α) (default value : α) : Prop :=
  flag = some value ∨ flag = none ∧ (file = some value ∨ file = none ∧ value = default)

theorem takes_iff
    {α : Type} (flag file : Option α) (default value : α) :
    Takes flag file default value ↔ value = flag.getD (file.getD default) := by
  cases flag with
  | some v => simp [Takes, eq_comm]
  | none =>
      cases file with
      | some v => simp [Takes, eq_comm]
      | none => simp [Takes]

/-- The settings in force. Every setting takes its value by itself. -/
structure InForce (flags file : Overrides) (s : Settings) : Prop where
  format : Takes flags.format file.format "text" s.format
  color : Takes flags.color file.color "auto" s.color
  funcs : Takes flags.funcs file.funcs [] s.funcs
  jobs : Takes flags.jobs file.jobs 0 s.jobs
  tests : Takes flags.tests file.tests false s.tests

theorem inForce_iff
    (flags file : Overrides) (s : Settings) :
    InForce flags file s ↔ s = flags.apply (file.apply .defaults) := by
  constructor
  · rintro ⟨hformat, hcolor, hfuncs, hjobs, htests⟩
    cases s
    simp only [takes_iff] at hformat hcolor hfuncs hjobs htests
    simp [Overrides.apply, Settings.defaults, hformat, hcolor, hfuncs, hjobs, htests]
  · rintro rfl
    constructor <;> exact (takes_iff _ _ _ _).mpr rfl

theorem InForce.unique
    {flags file : Overrides} {s t : Settings} (hs : InForce flags file s)
    (ht : InForce flags file t) :
    s = t := by
  rw [(inForce_iff flags file s).mp hs, (inForce_iff flags file t).mp ht]

theorem inForce_configured_iff
    (file : Overrides) (s : Settings) :
    InForce {} file s ↔ s = file.apply .defaults :=
  inForce_iff {} file s

/-- What a configuration holds: the settings it gives, and the keys that are no settings. Nothing if
a file cannot be read or decoded. -/
def ConfigSource.decoded? (decode : Decoder) : ConfigSource → Option (Overrides × List String)
  | .absent => some ({}, [])
  | .file _ content => content.bind decode

/-- The reasons why there is no report. -/
inductive Fails (tools : Tools) (source : ConfigSource) (options : Options) : Prop
  | undecodable (h : source.decoded? tools.decode = none)
  | unknownKey
      {file : Overrides} {keys : List String}
      (h : source.decoded? tools.decode = some (file, keys))
      (hkeys : keys ≠ [])
  | invalidConfig
      {file : Overrides} {keys : List String} {s : Settings}
      (h : source.decoded? tools.decode = some (file, keys))
      (hconfigured : InForce {} file s)
      (hinvalid : ¬ s.Valid)
  | invalidResult
      {file : Overrides} {keys : List String} {s : Settings}
      (h : source.decoded? tools.decode = some (file, keys))
      (hinForce : InForce options.overrides file s)
      (hinvalid : ¬ s.Valid)
  | run
      {file : Overrides} {keys : List String} {s : Settings} {e : LoadFailure}
      (h : source.decoded? tools.decode = some (file, keys))
      (hinForce : InForce options.overrides file s)
      (hrun : tools.run
        { dir := options.dir
          patterns := options.patterns
          tests := s.tests
          funcs := Spec.parseList s.funcList
          jobs := s.jobs } = .error e)

theorem settings_eq_ok_iff
    (decode : Decoder) (source : ConfigSource) (s : Settings) :
    source.settings decode = .ok s ↔
      ∃ file, source.decoded? decode = some (file, []) ∧ InForce {} file s ∧ s.Valid := by
  simp only [inForce_configured_iff]
  cases source with
  | file path content => exact loadWith_eq_ok_iff decode path content s
  | absent =>
      simp only [ConfigSource.settings, ConfigSource.decoded?, Except.ok.injEq, Option.some.injEq,
        Prod.mk.injEq, and_true, exists_eq_left']
      constructor
      · rintro rfl
        exact ⟨rfl, valid_defaults⟩
      · rintro ⟨rfl, _⟩
        rfl

section Report

variable (tools : Tools) (source : ConfigSource) (options : Options)

theorem effective_eq_ok_iff
    (t : Settings) :
    effective tools.decode source options.overrides = .ok t ↔
      ∃ file s, source.decoded? tools.decode = some (file, []) ∧ InForce {} file s ∧ s.Valid ∧
        InForce options.overrides file t ∧ t.Valid := by
  simp only [effective, inForce_iff options.overrides]
  constructor
  · intro h
    split at h
    · cases h
    · rename_i s hs
      obtain ⟨file, hdecoded, hconfigured, hvalid⟩ := (settings_eq_ok_iff _ source s).mp hs
      split at h
      · cases h
      · rename_i ht
        cases h
        refine ⟨file, s, hdecoded, hconfigured, hvalid, ?_, (validate_eq_ok_iff _).mp ht⟩
        rw [(inForce_configured_iff file s).mp hconfigured]
  · rintro ⟨file, s, hdecoded, hconfigured, hvalid, rfl, ht⟩
    have hs := (settings_eq_ok_iff _ source s).mpr ⟨file, hdecoded, hconfigured, hvalid⟩
    rw [← (inForce_configured_iff file s).mp hconfigured] at ht ⊢
    simp [hs, (validate_eq_ok_iff _).mpr ht]

variable (isTerminal : Bool)

/-- When there is a report, and what it is. -/
theorem report_eq_ok_iff
    (found : Findings) (text : String) :
    report tools isTerminal source options = .ok (found, text) ↔
      ∃ file s t format, source.decoded? tools.decode = some (file, []) ∧ InForce {} file s ∧
        s.Valid ∧ InForce options.overrides file t ∧ t.Valid ∧ Chooses isTerminal t format ∧
        tools.run (runOptions options t) = .ok found ∧ text = format.render found.diagnostics := by
  constructor
  · intro h
    simp only [report] at h
    split at h
    · cases h
    · rename_i t ht
      obtain ⟨file, s, hdecoded, hconfigured, hvalid, hinForce, htvalid⟩ :=
        (effective_eq_ok_iff tools source options t).mp ht
      split at h
      · cases h
      · rename_i format hformat
        have hchoice := (formatOf_eq_ok_iff htvalid format).mp hformat
        split at h
        · cases h
        · rename_i found' hfound
          cases h
          exact ⟨file, s, t, format, hdecoded, hconfigured, hvalid, hinForce, htvalid, hchoice,
            hfound, rfl⟩
  · rintro ⟨file, s, t, format, hdecoded, hconfigured, hvalid, hinForce, htvalid, hchoice, hfound,
      rfl⟩
    have heffective := (effective_eq_ok_iff tools source options t).mpr
      ⟨file, s, hdecoded, hconfigured, hvalid, hinForce, htvalid⟩
    have hformat := (formatOf_eq_ok_iff htvalid format).mpr hchoice
    simp [report, heffective, hformat, hfound]

theorem exists_chooses
    {t : Settings} (h : t.Valid) :
    ∃ format, Chooses isTerminal t format := by
  obtain ⟨color, _, hcolor⟩ := exists_useColor h isTerminal
  rcases h.format with hs | hs | hs
  · exact ⟨.text color, Chooses.text color hs hcolor⟩
  · exact ⟨.json, Chooses.json hs⟩
  · exact ⟨.yaml, Chooses.yaml hs⟩

/-- If there is no reason against it, the configuration is valid before and after the command line
has its say, and the run succeeds. The settings in force are determined, so a reason against any is
one against these. -/
theorem not_fails_iff :
    ¬ Fails tools source options ↔
      ∃ file s t found, source.decoded? tools.decode = some (file, []) ∧ InForce {} file s ∧
        s.Valid ∧ InForce options.overrides file t ∧ t.Valid ∧
        tools.run (runOptions options t) = .ok found := by
  constructor
  · intro hnot
    cases hfile : source.decoded? tools.decode with
    | none => exact absurd (Fails.undecodable hfile) hnot
    | some pair =>
        obtain ⟨file, keys⟩ := pair
        have hconfigured : InForce {} file (file.apply .defaults) :=
          (inForce_configured_iff file _).mpr rfl
        have hinForce : InForce options.overrides file
            (options.overrides.apply (file.apply .defaults)) :=
          (inForce_iff _ file _).mpr rfl
        have hkeys : keys = [] :=
          Classical.byContradiction fun h => hnot (Fails.unknownKey hfile h)
        have hvalid : (file.apply .defaults).Valid :=
          Classical.byContradiction fun h => hnot (Fails.invalidConfig hfile hconfigured h)
        have htvalid : (options.overrides.apply (file.apply .defaults)).Valid :=
          Classical.byContradiction fun h => hnot (Fails.invalidResult hfile hinForce h)
        cases hrun : tools.run (runOptions options _) with
        | error e => exact absurd (Fails.run hfile hinForce hrun) hnot
        | ok found =>
            exact ⟨file, _, _, found, by rw [hkeys], hconfigured, hvalid, hinForce, htvalid, hrun⟩
  · rintro ⟨file, s, t, found, hfile, hconfigured, hvalid, hinForce, htvalid, hrun⟩ hfails
    cases hfails with
    | undecodable hfile' => cases hfile.symm.trans hfile'
    | unknownKey hfile' hkeys =>
        cases hfile.symm.trans hfile'
        exact hkeys rfl
    | invalidConfig hfile' hconfigured' hinvalid =>
        cases hfile.symm.trans hfile'
        exact hinvalid (hconfigured.unique hconfigured' ▸ hvalid)
    | invalidResult hfile' hinForce' hinvalid =>
        cases hfile.symm.trans hfile'
        exact hinvalid (hinForce.unique hinForce' ▸ htvalid)
    | run hfile' hinForce' hrun' =>
        cases hfile.symm.trans hfile'
        cases hinForce.unique hinForce'
        cases hrun.symm.trans hrun'

theorem exists_report_of_not_fails
    (h : ¬ Fails tools source options) :
    ∃ file t found format, source.decoded? tools.decode = some (file, []) ∧
      InForce options.overrides file t ∧ tools.run (runOptions options t) = .ok found ∧
      Chooses isTerminal t format ∧
      report tools isTerminal source options = .ok (found, format.render found.diagnostics) := by
  obtain ⟨file, s, t, found, hfile, hconfigured, hvalid, hinForce, htvalid, hrun⟩ :=
    (not_fails_iff tools source options).mp h
  obtain ⟨format, hchoice⟩ := exists_chooses isTerminal htvalid
  refine ⟨file, t, found, format, hfile, hinForce, hrun, hchoice, ?_⟩
  exact (report_eq_ok_iff tools source options isTerminal found _).mpr
    ⟨file, s, t, format, hfile, hconfigured, hvalid, hinForce, htvalid, hchoice, hrun, rfl⟩

theorem exists_failure_of_fails
    (h : Fails tools source options) :
    ∃ e, report tools isTerminal source options = .error e := by
  cases hr : report tools isTerminal source options with
  | error e => exact ⟨e, rfl⟩
  | ok result =>
      obtain ⟨file, s, t, _, hfile, hconfigured, hvalid, hinForce, htvalid, _, hrun, _⟩ :=
        (report_eq_ok_iff tools source options isTerminal result.1 result.2).mp hr
      have hnot := (not_fails_iff tools source options).mpr
        ⟨file, s, t, result.1, hfile, hconfigured, hvalid, hinForce, htvalid, hrun⟩
      exact absurd h hnot

end Report

/-- Settings that pass the check have a color and a format. -/
theorem exists_format_of_validate
    {t : Settings} (h : t.validate = .ok ()) (isTerminal : Bool) :
    ∃ color format, useColor t.color isTerminal = .ok color ∧
      Format.ofName t.format color = .ok format := by
  have hvalid := (validate_eq_ok_iff t).mp h
  obtain ⟨color, hcolor, _⟩ := exists_useColor hvalid isTerminal
  obtain ⟨format, hchoice⟩ := exists_chooses isTerminal hvalid
  have hformat := (formatOf_eq_ok_iff hvalid format).mpr hchoice
  simp only [formatOf, hcolor] at hformat
  exact ⟨color, format, hcolor, hformat⟩

theorem status_outcome_ok
    (log : Log) (opening : List String) (found : Findings) (text : String) :
    (outcome log opening (.ok (found, text))).status =
      if found.diagnostics = [] then 0 else 3 := by
  simp [outcome, statusClean, statusFound]

/-- Where the configuration comes from: a file that is given, seen from the directory in which the
command is started, or the file that is found from the directory to work in. -/
inductive Configures (w : Workspace) (options : Options) : ConfigSource → Prop
  | given
      (h : options.config ≠ "") :
      Configures w options
        (.file options.config (w.tree.read? (w.cwd.resolve options.config)))
  | found
      {path : FileTree.Path}
      (h : options.config = "")
      (hfound : discover w.tree.entry (w.cwd.resolve options.dir) = some path) :
      Configures w options (.file path.text (w.tree.read? path))
  | absent
      (h : options.config = "")
      (hnone : discover w.tree.entry (w.cwd.resolve options.dir) = none) :
      Configures w options .absent

theorem Configures.eq_configSource
    {w : Workspace} {options : Options} {source : ConfigSource}
    (h : Configures w options source) :
    source = w.configSource options := by
  cases h with
  | given hgiven => simp [Workspace.configSource, hgiven]
  | found hgiven hfound => simp [Workspace.configSource, Workspace.directory, hgiven, hfound]
  | absent hgiven hnone => simp [Workspace.configSource, Workspace.directory, hgiven, hnone]

theorem runReportWith_eq_outcome
    {tools : Tools} {w : Workspace} {args : List String} {options : Options}
    {source : ConfigSource} (hargs : tools.arguments args = .ok options)
    (hhelp : options.help = false) (hsource : Configures w options source) (isTerminal : Bool) :
    runReportWith tools w isTerminal args =
      outcome { enabled := options.verbose, hasWriter := true } (configLog source)
        (report tools isTerminal source options) := by
  simp [runReportWith, hargs, hhelp, ← hsource.eq_configSource]

/-- The outcome of the report command, for all tools: for every reading of arguments and of
configuration files and for every run over packages. It has the status 1 and no output exactly if
the configuration cannot be decoded, has a key that is no setting or has invalid settings, if the
settings are invalid after those of the command line have taken the place of the configured ones, or
if the run fails. Else the run is made with the directory and the patterns of the command line and
with the tests, functions and jobs of the settings in force, the output shows its diagnostics in the
format that these ask for, and the status is 3 if there are any and 0 if not. Settings that pass the
check always have a color and a format. A run asks its loader for what it is asked for itself and
finds what is found in the packages it is given, whatever the machine. The command on a file tree
is this command with such a run. -/
theorem outcome_of_settings_and_findings
    {tools : Tools} {w : Workspace} {args : List String} {options : Options}
    {source : ConfigSource} (hargs : tools.arguments args = .ok options)
    (hhelp : options.help = false) (hsource : Configures w options source) (isTerminal : Bool) :
    let out := runReportWith tools w isTerminal args
    (out.status = 1 ∧ out.stdout = "" ↔ Fails tools source options) ∧
    (¬ Fails tools source options →
      ∃ file t found format,
        source.decoded? tools.decode = some (file, []) ∧ InForce options.overrides file t ∧
        tools.run
          { dir := options.dir
            patterns := options.patterns
            tests := t.tests
            funcs := Spec.parseList t.funcList
            jobs := t.jobs } = .ok found ∧
        Chooses isTerminal t format ∧ out.stdout = format.render found.diagnostics ∧
        out.status = if found.diagnostics = [] then 0 else 3) ∧
    (∀ t : Settings, t.validate = .ok () →
      ∃ color format, useColor t.color isTerminal = .ok color ∧
        Format.ofName t.format color = .ok format) ∧
    (∀ (machine : Machine) (load : Loader) (o : RunOptions) (found : Findings),
      analyse machine load o = .ok found ↔
        ∃ batch,
          load
            { dir := o.dir
              patterns := if o.patterns = [] then ["./..."] else o.patterns
              tests := o.tests } = .ok batch ∧
          batch.packages ≠ [] ∧ batch.run o.funcs = .ok found.diagnostics ∧
          found.progress = batch.progress o.funcs) ∧
    runReport w isTerminal args =
      runReportWith
        { arguments := Options.ofArguments
          decode := Config.decode
          run := analyse Machine.sequential fun request =>
            (Load.load w.tree (w.cwd.resolve request.dir) request.patterns request.tests).map
              Load.Program.batch }
        w isTerminal args := by
  intro out
  have hout : out = outcome _ _ (report tools isTerminal source options) :=
    runReportWith_eq_outcome hargs hhelp hsource isTerminal
  refine ⟨⟨?_, ?_⟩, ?_, fun t ht => exists_format_of_validate ht isTerminal,
    analyse_eq_ok_iff, rfl⟩
  · rintro ⟨hstatus, _⟩
    refine Classical.byContradiction fun hnot => ?_
    obtain ⟨file, t, found, format, _, _, _, _, hreport⟩ :=
      exists_report_of_not_fails tools source options isTerminal hnot
    rw [hout, hreport, status_outcome_ok] at hstatus
    split at hstatus
    · cases hstatus
    · cases hstatus
  · intro hfails
    obtain ⟨e, he⟩ := exists_failure_of_fails tools source options isTerminal hfails
    rw [hout, he]
    exact ⟨rfl, rfl⟩
  · intro hnot
    obtain ⟨file, t, found, format, hfile, hinForce, hrun, hchoice, hreport⟩ :=
      exists_report_of_not_fails tools source options isTerminal hnot
    rw [hout, hreport]
    exact ⟨file, t, found, format, hfile, hinForce, hrun, hchoice, rfl, status_outcome_ok _ _ _ _⟩

/-- A loader of a package whose test calls a function and discards the result. -/
def testedPackage : Loader := fun request =>
  let variant : LoadedPackage :=
    { id := "lib [lib.test]", files := [callingFile 0 []], errors := [] }
  .ok
    { fileSet := [{ name := "lib_test.go", starts := [0, 60], directives := [] }]
      packages :=
        { id := "lib", files := [], errors := [] } :: if request.tests then [variant] else []
      sources := [] }

/-- The tools of the command, with this loader. -/
def testedTools : Tools :=
  { arguments := Options.ofArguments
    decode := Config.decode
    run := analyse .sequential testedPackage }

/-- A directory whose configuration names the function. -/
def testedWorkspace : Workspace :=
  { tree := { files := [([Config.fileName, "work"], "funcs = [\"lib.F\"]\n")], directories := [] }
    cwd := ["work"] }

/-- The flag for tests and the functions of the file are in force together, and the call in the test
is found. -/
theorem outcome_of_tested_package :
    let options : Options := { overrides := { tests := some true }, patterns := ["./lib"] }
    let path : FileTree.Path := [Config.fileName, "work"]
    let source : ConfigSource := .file path.text (testedWorkspace.tree.read? path)
    testedTools.arguments ["--tests", "./lib"] = .ok options ∧ options.help = false ∧
    Configures testedWorkspace options source ∧
    ∃ file s found,
      source.decoded? testedTools.decode = some (file, []) ∧ file.funcs = some ["lib.F"] ∧
      InForce options.overrides file s ∧ s.tests = true ∧ s.funcs = ["lib.F"] ∧
      testedTools.run
        { dir := ""
          patterns := ["./lib"]
          tests := s.tests
          funcs := Spec.parseList s.funcList
          jobs := s.jobs } = .ok found ∧
      found.diagnostics ≠ [] ∧
      (runReportWith testedTools testedWorkspace false ["--tests", "./lib"]).status = 3 := by
  intro options path source
  have hargs : testedTools.arguments ["--tests", "./lib"] = .ok options := by
    decide +kernel
  have hsource : Configures testedWorkspace options source :=
    Configures.found rfl (by decide +kernel)
  have hstatus : (runReportWith testedTools testedWorkspace false ["--tests", "./lib"]).status =
      3 := by
    decide +kernel
  have hdecoded : source.decoded? testedTools.decode =
      some ({ funcs := some ["lib.F"] }, []) := by
    decide +kernel
  obtain ⟨hfails, hreport, _⟩ := outcome_of_settings_and_findings hargs rfl hsource false
  have hnot : ¬ Fails testedTools source options := by
    intro h
    have hfailed := (hfails.mpr h).1
    rw [hstatus] at hfailed
    cases hfailed
  obtain ⟨file, s, found, format, hfile, hinForce, hrun, _, _, hfound⟩ := hreport hnot
  cases hdecoded.symm.trans hfile
  have htests : s.tests = true := (takes_iff _ _ _ _).mp hinForce.tests
  have hfuncs : s.funcs = ["lib.F"] := (takes_iff _ _ _ _).mp hinForce.funcs
  have hnonempty : found.diagnostics ≠ [] := by
    intro hempty
    rw [hstatus, if_pos hempty] at hfound
    cases hfound
  exact ⟨hargs, rfl, hsource, _, s, found, hdecoded, rfl, hinForce, htests, hfuncs, hrun,
    hnonempty, hstatus⟩

end Command
end MustUse

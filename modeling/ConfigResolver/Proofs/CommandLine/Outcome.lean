import ConfigResolver.CommandLine.Run
import ConfigResolver.Proofs.CommandLine.Overriding
import ConfigResolver.Proofs.Files
import ConfigResolver.Proofs.Resolver.Part
import ConfigResolver.Proofs.Resolver.Roots

/-!
# How a command line ends

A `World` is what a command line finds: the environment, the files, the library that asks the
parameter store, and the store in some state. Nothing in it has to work. A file may be refused to
be read or written for any reason, the library may not start, and a value may be one that cannot be
printed.

`Unable` says that a command cannot be carried out, be it for the options, the library, the input
file or the output file, `Fails` that it can but a value could not be had, and `Unprintable` that
all were had but could not be printed. The exit status tells the first of them from the others
(`Ended`), because an error of loading a file is never one of resolving what was loaded
(`isOfFile_of_resolveDocument`). Main statement: `run_ended`.

What is printed and what is written is decided last. So a command that does not succeed has printed
nothing on standard output, and has left all files as they were, unless it is in writing one of them
that it fails. What a command that succeeds has written is read again where files are kept as they
were written (`FileSystem.Keeps`), as those below a working directory are (`Ended.read_output`).
-/

namespace ConfigResolver

/-! ## Whose fault it is -/

@[simp] theorem Error.isOfFile_orPath (e : Error) (path : String) :
    (e.orPath path).isOfFile = e.isOfFile := by
  rw [isOfFile, kind_orPath]
  rfl

namespace Resolver

variable {σ : Type} {r : Resolver σ} {env : Environment} {st : σ} {e : Error}

theorem LookupError.isOfFile_eq_false (h : LookupError e) : e.isOfFile = false := by
  cases h <;> rfl

theorem isOfFile_of_resolveString {text : String}
    (h : (r.resolveString env text st).result = .error e) : e.isOfFile = false := by
  rcases resolveString_error_cases (show r.resolveString env text st = ⟨.error e, _, _⟩ by rw [← h])
    with ⟨k, -, hfails⟩ | ⟨t, -, -, rfl⟩
  · exact hfails.lookupError.isOfFile_eq_false
  · rfl

/-- The error of a node is that of a text in it. -/
theorem isOfFile_of_walk {path : String} {v : Value}
    (h : (r.walk env path v st).result = .error e) : e.isOfFile = false := by
  have hleaves : (r.resolveLeaves env (leaves path v) st).result = .error e := by
    rw [← course_walk]
    exact Run.result_course_eq_error.2 h
  obtain ⟨before, leaf, after, -, -, hleaf⟩ := Run.forM_eq_error hleaves
  obtain ⟨e', he', rfl⟩ := course_resolveLeaf_eq_error.1 hleaf
  rw [Error.isOfFile_orPath]
  exact isOfFile_of_resolveString he'

/-- A document that is there fails for a value, never for a file. -/
theorem isOfFile_of_resolveDocument {doc : Value} {resolveKey returnKey : Option String}
    (h : (r.resolveDocument env doc resolveKey returnKey st).result = .error e) :
    e.isOfFile = false := by
  obtain ⟨path, before, put, -, hdocument⟩ :=
    resolveDocument_walks_selected r env doc resolveKey returnKey
  rw [hdocument] at h
  exact isOfFile_of_walk (error_of_map h)

theorem result_resolveLoaded_ok (r : Resolver σ) (env : Environment) (path : String) (doc : Value)
    (resolveKey returnKey : Option String) (st : σ) :
    (r.resolveLoaded env path (.ok doc) resolveKey returnKey st).result =
      (r.resolveDocument env doc resolveKey returnKey st).result := by
  rw [resolveLoaded, Run.ofExcept_ok, pure_bind, Run.bind_of_ok rfl]
  rfl

end Resolver

namespace CommandLine

variable {σ φ : Type}

/-- The input file is at fault, or a value is. -/
theorem exitOf_eq (e : Error) : exitOf e = if e.isOfFile then 2 else 1 := by
  obtain ⟨kind, path, location, help, cause⟩ := e
  cases kind <;> rfl

/-- Options in normal form have a resolver, unless the library is needed and does not start. -/
theorem resolverOf_eq_error_iff {library : Ssm.Library σ} {o : Options} (ho : o.Normal) :
    (∃ reason, resolverOf library o = .error reason) ↔
      o.skipRemote = false ∧ ∃ reason, library.start = .error reason := by
  unfold resolverOf
  cases hskip : o.skipRemote with
  | true =>
    have hnormal : (o.withSkipRemote true).Normal := ⟨ho.roots, ho.default⟩
    rw [if_pos rfl, Resolver.offline, Resolver.new_of_normal hnormal]
    exact iff_of_false nofun nofun
  | false =>
    rw [if_neg Bool.false_ne_true, Ssm.Connection.connect]
    cases library.start with
    | error reason => exact iff_of_true ⟨_, rfl⟩ ⟨rfl, reason, rfl⟩
    | ok started =>
      simp only [Resolver.withStore, Resolver.new_of_normal ho]
      exact iff_of_false nofun nofun

/-! ## What a command line finds -/

/-- What a command line finds. -/
structure World (σ φ : Type) where
  /-- The variables of the process. -/
  environment : Environment
  /-- How files are read and written. -/
  system : FileSystem φ
  /-- The files. -/
  files : φ
  /-- The library that the parameter store is asked by. -/
  library : Ssm.Library σ
  /-- The state of the parameter store. -/
  store : σ
  /-- What prints documents and listings. -/
  printer : Printer
  /-- How many pages of a path are read at most. -/
  pages : Nat

namespace World

/-- The setting of a command line. -/
def setting (w : World σ φ) : Setting σ where
  environment := w.environment
  read path := w.system.read path w.files
  library := w.library
  printer := w.printer
  pages := w.pages

/-- The plan for a command line. -/
def plan (w : World σ φ) (words : List String) : Option Plan := (run w.setting words w.store).1

/-- The resolver that the environment and the common switches ask for, or why there is none. -/
def resolver (w : World σ φ) (common : Common) : Except String (Resolver σ) :=
  w.setting.resolver common

/-- The document in a file. -/
def load (w : World σ φ) (file : String) : Except Error Value :=
  Loading.ofBytes file (w.system.read file w.files)

/-- What resolving a file comes to. -/
def resolved (w : World σ φ) (r : Resolver σ) (file : String)
    (resolveKey returnKey : Option String) : Except Error Value :=
  (r.resolveLoaded w.environment file (w.load file) resolveKey returnKey w.store).result

/-- What writing a text to a file comes to. -/
def write (w : World σ φ) (path content : String) : Option FileError × φ :=
  w.system.write path content.toUTF8.toList w.files

/-- With the files below a working directory it is `Resolver.resolveFile` that is run. -/
theorem resolved_eq_resolveFile {w : World σ Files} (h : w.system = Files.system)
    (r : Resolver σ) (file : String) (resolveKey returnKey : Option String) :
    w.resolved r file resolveKey returnKey =
      (r.resolveFile w.environment w.files file resolveKey returnKey w.store).result := by
  rw [resolved, load, h]
  rfl

end World

/-- There is no resolver for a command line. -/
inductive Unready (w : World σ φ) (common : Common) : Prop where
  /-- The options are refused. -/
  | options {e : Error} (h : common.options w.environment = .error e)
  /-- There is no client of the parameter store, which is not to be skipped. -/
  | client {o : Options} {reason : String} (ho : common.options w.environment = .ok o)
    (hremote : o.skipRemote = false) (h : w.library.start = .error reason)

/-- The document that a command resolves cannot be written to the output file. -/
inductive Unwritten (w : World σ φ) (common : Common) : Command → Prop where
  /-- It was resolved and could be printed. -/
  | output {r : Resolver σ} {file path content : String} {resolveKey returnKey : Option String}
      {format : DocumentFormat} {v : Value} {e : FileError} (hr : w.resolver common = .ok r)
      (hv : w.resolved r file resolveKey returnKey = .ok v)
      (hcontent : w.printer.document format v = .ok content)
      (h : (w.write path content).1 = some e) :
      Unwritten w common (.resolve file resolveKey returnKey format (some path))

/-- A command cannot be carried out. -/
inductive Unable (w : World σ φ) (common : Common) : Command → Prop where
  /-- The options or the client of the parameter store cannot be built. -/
  | setup {command : Command} (h : Unready w common) : Unable w common command
  /-- The input file cannot be loaded. -/
  | input {r : Resolver σ} {file : String} {resolveKey returnKey output : Option String}
      {format : DocumentFormat} {e : Error} (hr : w.resolver common = .ok r)
      (h : w.load file = .error e) :
      Unable w common (.resolve file resolveKey returnKey format output)
  /-- The output cannot be written. -/
  | output {command : Command} (h : Unwritten w common command) : Unable w common command

/-- A value could not be had. -/
inductive Fails (w : World σ φ) (common : Common) : Command → Prop where
  /-- The input file was loaded, and a lookup or the substitutions in a text fail. -/
  | document {r : Resolver σ} {file : String} {resolveKey returnKey output : Option String}
      {format : DocumentFormat} {doc : Value} {e : Error} (hr : w.resolver common = .ok r)
      (hload : w.load file = .ok doc)
      (h : (r.resolveDocument w.environment doc resolveKey returnKey w.store).result = .error e) :
      Fails w common (.resolve file resolveKey returnKey format output)
  /-- The lookup of a parameter fails. -/
  | parameter {r : Resolver σ} {key : String} {e : Error} (hr : w.resolver common = .ok r)
      (h : (r.getParameter key w.store).result = .error e) : Fails w common (.get key)
  /-- The listing fails. -/
  | listing {r : Resolver σ} {path : Option String} {format : ListFormat} {e : Error}
      (hr : w.resolver common = .ok r)
      (h : (r.listParameters w.pages path w.store).result = .error e) :
      Fails w common (.list path format)

/-- All values were had, but cannot be printed. -/
inductive Unprintable (w : World σ φ) (common : Common) : Command → Prop where
  /-- The printer refuses the document. -/
  | document {r : Resolver σ} {file reason : String} {resolveKey returnKey output : Option String}
      {format : DocumentFormat} {v : Value} (hr : w.resolver common = .ok r)
      (hv : w.resolved r file resolveKey returnKey = .ok v)
      (h : w.printer.document format v = .error reason) :
      Unprintable w common (.resolve file resolveKey returnKey format output)
  /-- The printer refuses the listing. -/
  | listing {r : Resolver σ} {path : Option String} {format : ListFormat} {ps : List Parameter}
      {reason : String} (hr : w.resolver common = .ok r)
      (hps : (r.listParameters w.pages path w.store).result = .ok (some ps))
      (h : w.printer.listing format ps = .error reason) :
      Unprintable w common (.list path format)

/-- A listing has more pages than are read of a path, so it does not end. -/
inductive Endless (w : World σ φ) (common : Common) : Command → Prop where
  /-- There is no answer to the listing. -/
  | listing {r : Resolver σ} {path : Option String} {format : ListFormat}
      (hr : w.resolver common = .ok r)
      (h : (r.listParameters w.pages path w.store).result = .ok none) :
      Endless w common (.list path format)

/-- Where the document of a command that resolves a file has gone. In the output file it is found
again, if files are kept as they were written. -/
def Delivered (w : World σ φ) (report : Report) (after : φ) (content : String) :
    Option String → Prop
  | none => report.output = content ∧ after = w.files
  | some path => report.output = "" ∧ w.write path content = (none, after) ∧
    (w.system.Keeps → w.system.read path after = .ok content.toUTF8.toList)

/-- `Ended w common command report after`: the command may have ended with this report and these
files. -/
structure Ended (w : World σ φ) (common : Common) (command : Command) (report : Report)
    (after : φ) : Prop where
  /-- The exit status is one of three. -/
  exit_le : report.exit ≤ 2
  /-- A command that does not succeed prints nothing on standard output. It leaves all files as
  they are, unless it is the output file that cannot be written. -/
  quiet : report.exit ≠ 0 → report.output = "" ∧ (after = w.files ∨ Unwritten w common command)
  /-- With 2 the command could not be carried out. -/
  unable : report.exit = 2 ↔ Unable w common command
  /-- With 1 a value could not be had, or not be printed. -/
  fails : report.exit = 1 ↔ Fails w common command ∨ Unprintable w common command
  /-- A file that is resolved with success is written to the output file, or else printed. -/
  delivered : ∀ file resolveKey returnKey format output,
    command = .resolve file resolveKey returnKey format output → report.exit = 0 →
      ∃ r v content, w.resolver common = .ok r ∧
        w.resolved r file resolveKey returnKey = .ok v ∧
        w.printer.document format v = .ok content ∧ Delivered w report after content output

section

variable {w : World σ φ} {common : Common} {command : Command} {r : Resolver σ} {file : String}
  {resolveKey returnKey output path : Option String} {format : DocumentFormat} {key : String}
  {listFormat : ListFormat}

/-! ## Inversion -/

theorem unready_iff : Unready w common ↔ ∃ reason, w.resolver common = .error reason := by
  unfold World.resolver Setting.resolver World.setting
  cases ho : common.options w.environment with
  | error e => exact iff_of_true (.options ho) ⟨_, rfl⟩
  | ok o =>
    change _ ↔ ∃ reason, resolverOf w.library o = .error reason
    rw [resolverOf_eq_error_iff (Common.normal_of_options ho)]
    constructor
    · rintro (h | ⟨ho', hremote, h⟩)
      · cases ho.symm.trans h
      · obtain rfl := Except.ok.inj (ho.symm.trans ho')
        exact ⟨hremote, _, h⟩
    · rintro ⟨hremote, reason, h⟩
      exact .client ho hremote h

theorem not_unready (hr : w.resolver common = .ok r) : ¬ Unready w common := by
  rw [unready_iff]
  rintro ⟨reason, h⟩
  cases hr.symm.trans h

/-- Without a file there is nothing but the resolver to be built. -/
theorem not_unable (hr : w.resolver common = .ok r)
    (hcommand : ∀ file resolveKey returnKey format output,
      command ≠ .resolve file resolveKey returnKey format output) :
    ¬ Unable w common command := by
  intro h
  cases h with
  | setup h => exact not_unready hr h
  | input => exact hcommand _ _ _ _ _ rfl
  | output h =>
    cases h
    exact hcommand _ _ _ _ _ rfl

theorem unwritten_resolve_iff (hr : w.resolver common = .ok r) :
    Unwritten w common (.resolve file resolveKey returnKey format output) ↔
      ∃ v content path e, output = some path ∧ w.resolved r file resolveKey returnKey = .ok v ∧
        w.printer.document format v = .ok content ∧ (w.write path content).1 = some e := by
  constructor
  · rintro ⟨hr', hv, hcontent, h⟩
    obtain rfl := Except.ok.inj (hr.symm.trans hr')
    exact ⟨_, _, _, _, rfl, hv, hcontent, h⟩
  · rintro ⟨v, content, path, e, rfl, hv, hcontent, h⟩
    exact .output hr hv hcontent h

theorem unable_resolve_iff (hr : w.resolver common = .ok r) :
    Unable w common (.resolve file resolveKey returnKey format output) ↔
      (∃ e, w.load file = .error e) ∨
        Unwritten w common (.resolve file resolveKey returnKey format output) := by
  constructor
  · intro h
    cases h with
    | setup h => exact absurd h (not_unready hr)
    | input _ h => exact .inl ⟨_, h⟩
    | output h => exact .inr h
  · rintro (⟨e, h⟩ | h)
    · exact .input hr h
    · exact .output h

theorem fails_resolve_iff (hr : w.resolver common = .ok r) :
    Fails w common (.resolve file resolveKey returnKey format output) ↔
      ∃ doc e, w.load file = .ok doc ∧
        (r.resolveDocument w.environment doc resolveKey returnKey w.store).result = .error e := by
  constructor
  · rintro (@⟨r', _, _, _, _, _, doc, e, hr', hload, h⟩)
    obtain rfl := Except.ok.inj (hr.symm.trans hr')
    exact ⟨doc, e, hload, h⟩
  · rintro ⟨doc, e, hload, h⟩
    exact .document hr hload h

theorem unprintable_resolve_iff (hr : w.resolver common = .ok r) :
    Unprintable w common (.resolve file resolveKey returnKey format output) ↔
      ∃ v reason, w.resolved r file resolveKey returnKey = .ok v ∧
        w.printer.document format v = .error reason := by
  constructor
  · intro h
    cases h with
    | document hr' hv h =>
      obtain rfl := Except.ok.inj (hr.symm.trans hr')
      exact ⟨_, _, hv, h⟩
  · rintro ⟨v, reason, hv, h⟩
    exact .document hr hv h

theorem fails_get_iff (hr : w.resolver common = .ok r) :
    Fails w common (.get key) ↔ ∃ e, (r.getParameter key w.store).result = .error e := by
  constructor
  · intro h
    cases h with
    | parameter hr' h =>
      obtain rfl := Except.ok.inj (hr.symm.trans hr')
      exact ⟨_, h⟩
  · rintro ⟨e, h⟩
    exact .parameter hr h

theorem fails_list_iff (hr : w.resolver common = .ok r) :
    Fails w common (.list path listFormat) ↔
      ∃ e, (r.listParameters w.pages path w.store).result = .error e := by
  constructor
  · intro h
    cases h with
    | listing hr' h =>
      obtain rfl := Except.ok.inj (hr.symm.trans hr')
      exact ⟨_, h⟩
  · rintro ⟨e, h⟩
    exact .listing hr h

theorem unprintable_list_iff (hr : w.resolver common = .ok r) :
    Unprintable w common (.list path listFormat) ↔
      ∃ ps reason, (r.listParameters w.pages path w.store).result = .ok (some ps) ∧
        w.printer.listing listFormat ps = .error reason := by
  constructor
  · intro h
    cases h with
    | listing hr' hps h =>
      obtain rfl := Except.ok.inj (hr.symm.trans hr')
      exact ⟨_, _, hps, h⟩
  · rintro ⟨ps, reason, hps, h⟩
    exact .listing hr hps h

theorem endless_list_iff (hr : w.resolver common = .ok r) :
    Endless w common (.list path listFormat) ↔
      (r.listParameters w.pages path w.store).result = .ok none := by
  constructor
  · rintro ⟨hr', h⟩
    obtain rfl := Except.ok.inj (hr.symm.trans hr')
    exact h
  · exact .listing hr

theorem resolved_of_load_ok {doc : Value} (hload : w.load file = .ok doc) :
    w.resolved r file resolveKey returnKey =
      (r.resolveDocument w.environment doc resolveKey returnKey w.store).result := by
  rw [World.resolved, hload, Resolver.result_resolveLoaded_ok]

theorem resolved_of_load_error {e : Error} (hload : w.load file = .error e) :
    w.resolved r file resolveKey returnKey = .error e := by
  rw [World.resolved, hload]
  rfl

/-- Whoever comes to look for values or to print them has a resolver. -/
theorem exists_resolver (h : Fails w common command ∨ Unprintable w common command) :
    ∃ r, w.resolver common = .ok r := by
  rcases h with (⟨hr⟩ | ⟨hr⟩ | ⟨hr⟩) | (⟨hr⟩ | ⟨hr⟩) <;> exact ⟨_, hr⟩

/-- A command that cannot be carried out does not come to look for values, or has found all and has
printed them into the output file. -/
theorem Unable.not_fails (h : Unable w common command) :
    ¬ (Fails w common command ∨ Unprintable w common command) := by
  cases h with
  | setup h =>
    intro hmissed
    obtain ⟨r, hr⟩ := exists_resolver hmissed
    exact not_unready hr h
  | input hr h =>
    rw [fails_resolve_iff hr, unprintable_resolve_iff hr]
    rintro (⟨doc, e, hload, -⟩ | ⟨v, reason, hv, -⟩)
    · cases h.symm.trans hload
    · cases (resolved_of_load_error h).symm.trans hv
  | output h =>
    obtain ⟨hr, hv, hcontent, -⟩ := h
    rw [fails_resolve_iff hr, unprintable_resolve_iff hr]
    rintro (⟨doc, e, hload, hfails⟩ | ⟨v, reason, hv', hreason⟩)
    · rw [resolved_of_load_ok hload, hfails] at hv
      cases hv
    · obtain rfl := Except.ok.inj (hv.symm.trans hv')
      cases hcontent.symm.trans hreason

/-- The standard printer refuses nothing. -/
theorem not_unprintable (h : w.printer = .standard) : ¬ Unprintable w common command := by
  rintro (⟨-, -, hreason⟩ | ⟨-, -, hreason⟩) <;>
  · rw [h] at hreason
    cases hreason

/-! ## The three exit statuses -/

section Exit

variable {report : Report} {after : φ}

theorem Ended.of_unable (h : Unable w common command) (hexit : report.exit = 2)
    (houtput : report.output = "") (hafter : after = w.files ∨ Unwritten w common command) :
    Ended w common command report after where
  exit_le := by omega
  quiet _ := ⟨houtput, hafter⟩
  unable := iff_of_true hexit h
  fails := iff_of_false (by omega) h.not_fails
  delivered := by omega

theorem Ended.of_fails (h : Fails w common command ∨ Unprintable w common command)
    (hexit : report.exit = 1) (houtput : report.output = "") :
    Ended w common command report w.files where
  exit_le := by omega
  quiet _ := ⟨houtput, .inl rfl⟩
  unable := iff_of_false (by omega) fun hunable ↦ hunable.not_fails h
  fails := iff_of_true hexit h
  delivered := by omega

theorem Ended.of_success (hable : ¬ Unable w common command) (h : ¬ Fails w common command)
    (hprinted : ¬ Unprintable w common command) (hexit : report.exit = 0)
    (hdelivered : ∀ file resolveKey returnKey format output,
      command = .resolve file resolveKey returnKey format output →
        ∃ r v content, w.resolver common = .ok r ∧
          w.resolved r file resolveKey returnKey = .ok v ∧
          w.printer.document format v = .ok content ∧ Delivered w report after content output) :
    Ended w common command report after where
  exit_le := by omega
  quiet hne := absurd hexit hne
  unable := iff_of_false (by omega) hable
  fails := iff_of_false (by omega) (not_or_intro h hprinted)
  delivered file resolveKey returnKey format output hcommand _ :=
    hdelivered file resolveKey returnKey format output hcommand

/-- In the files below a working directory the document is found again that resolving the input file
came to. -/
theorem Ended.read_output {w : World σ Files} (hw : w.system = Files.system) {path : String}
    {after : Files}
    (h : Ended w common (.resolve file resolveKey returnKey format (some path)) report after)
    (hexit : report.exit = 0) :
    ∃ r v content, w.resolver common = .ok r ∧
      (r.resolveFile w.environment w.files file resolveKey returnKey w.store).result = .ok v ∧
      w.printer.document format v = .ok content ∧
      after.read path = .ok content.toUTF8.toList := by
  obtain ⟨r, v, content, hr, hv, hcontent, -, -, hread⟩ := h.delivered _ _ _ _ _ rfl hexit
  rw [World.resolved_eq_resolveFile hw] at hv
  rw [hw] at hread
  exact ⟨r, v, content, hr, hv, hcontent, hread Files.system_keeps⟩

end Exit

/-! ## The commands -/

theorem plan_resolve_of_error {e : Error} (h : w.resolved r file resolveKey returnKey = .error e) :
    (w.setting.plan r (.resolve file resolveKey returnKey format output) w.store).1 =
      some (.report (unresolved w.setting.coloured file e)) := by
  have hresult : (r.resolveLoaded w.setting.environment file
      (Loading.ofBytes file (w.setting.read file)) resolveKey returnKey w.store).result =
        .error e := h
  simp only [Setting.plan, hresult]

theorem plan_resolve_of_ok {v : Value} (h : w.resolved r file resolveKey returnKey = .ok v) :
    (w.setting.plan r (.resolve file resolveKey returnKey format output) w.store).1 =
      some (w.setting.deliver format output v) := by
  have hresult : (r.resolveLoaded w.setting.environment file
      (Loading.ofBytes file (w.setting.read file)) resolveKey returnKey w.store).result =
        .ok v := h
  simp only [Setting.plan, hresult]

/-- A document that was resolved is printed or written, and each of these may fail. -/
theorem ended_deliver (hr : w.resolver common = .ok r) {v : Value}
    (hv : w.resolved r file resolveKey returnKey = .ok v)
    (hable : ¬ ∃ e, w.load file = .error e)
    (hfound : ¬ Fails w common (.resolve file resolveKey returnKey format output)) :
    let done := (w.setting.deliver format output v).perform w.system w.files
    Ended w common (.resolve file resolveKey returnKey format output) done.1 done.2 := by
  cases hcontent : w.printer.document format v with
  | error reason =>
    simp only [Setting.deliver, World.setting, hcontent]
    exact .of_fails (.inr (.document hr hv hcontent)) rfl rfl
  | ok content =>
    have hprinted : ¬ Unprintable w common (.resolve file resolveKey returnKey format output) := by
      rw [unprintable_resolve_iff hr]
      rintro ⟨v', reason, hv', hreason⟩
      obtain rfl := Except.ok.inj (hv.symm.trans hv')
      cases hcontent.symm.trans hreason
    simp only [Setting.deliver, World.setting, hcontent]
    cases output with
    | none =>
      refine .of_success ?_ hfound hprinted rfl ?_
      · rw [unable_resolve_iff hr, unwritten_resolve_iff hr]
        rintro (h | ⟨_, _, _, _, ⟨⟩, _⟩)
        exact hable h
      · rintro _ _ _ _ _ ⟨⟩
        exact ⟨r, v, content, hr, hv, hcontent, rfl, rfl⟩
    | some path =>
      obtain ⟨failure, after, hwrite⟩ : ∃ failure after,
          w.system.write path content.toUTF8.toList w.files = (failure, after) := ⟨_, _, rfl⟩
      simp only [Plan.perform, hwrite]
      cases failure with
      | some e =>
        have hunwritten : Unwritten w common
            (.resolve file resolveKey returnKey format (some path)) :=
          .output hr hv hcontent (congrArg Prod.fst hwrite)
        exact .of_unable (.output hunwritten) rfl rfl (.inr hunwritten)
      | none =>
        refine .of_success ?_ hfound hprinted rfl ?_
        · rw [unable_resolve_iff hr, unwritten_resolve_iff hr]
          rintro (h | ⟨v', content', _, e, ⟨⟩, hv', hcontent', h⟩)
          · exact hable h
          · obtain rfl := Except.ok.inj (hv.symm.trans hv')
            obtain rfl := Except.ok.inj (hcontent.symm.trans hcontent')
            cases h.symm.trans (congrArg Prod.fst hwrite)
        · rintro _ _ _ _ _ ⟨⟩
          exact ⟨r, v, content, hr, hv, hcontent, rfl, hwrite, fun hkeeps ↦ hkeeps hwrite⟩

/-- A file is loaded, resolved and delivered, and each of these steps may be the last. -/
theorem ended_resolve (hr : w.resolver common = .ok r) {todo : Plan}
    (htodo : (w.setting.plan r (.resolve file resolveKey returnKey format output) w.store).1 =
      some todo) :
    let done := todo.perform w.system w.files
    Ended w common (.resolve file resolveKey returnKey format output) done.1 done.2 := by
  cases hload : w.load file with
  | error e =>
    rw [plan_resolve_of_error (resolved_of_load_error hload)] at htodo
    obtain rfl := Option.some.inj htodo
    refine .of_unable (.input hr hload) ?_ rfl (.inl rfl)
    exact (exitOf_eq e).trans (if_pos (Loading.isOfFile_of_ofBytes hload))
  | ok doc =>
    have hresolved : w.resolved r file resolveKey returnKey = _ := resolved_of_load_ok hload
    cases hdoc : (r.resolveDocument w.environment doc resolveKey returnKey w.store).result with
    | error e =>
      rw [plan_resolve_of_error (hresolved.trans hdoc)] at htodo
      obtain rfl := Option.some.inj htodo
      refine .of_fails (.inl (.document hr hload hdoc)) ?_ rfl
      exact (exitOf_eq e).trans (if_neg (by simp [Resolver.isOfFile_of_resolveDocument hdoc]))
    | ok v =>
      rw [plan_resolve_of_ok (hresolved.trans hdoc)] at htodo
      obtain rfl := Option.some.inj htodo
      refine ended_deliver hr (hresolved.trans hdoc) ?_ ?_
      · rintro ⟨e, h⟩
        cases hload.symm.trans h
      · rw [fails_resolve_iff hr]
        rintro ⟨doc', e, hload', hdoc'⟩
        obtain rfl := Except.ok.inj (hload.symm.trans hload')
        cases hdoc.symm.trans hdoc'

theorem ended_get (hr : w.resolver common = .ok r) {todo : Plan}
    (htodo : (w.setting.plan r (.get key) w.store).1 = some todo) :
    let done := todo.perform w.system w.files
    Ended w common (.get key) done.1 done.2 := by
  simp only [Setting.plan, Option.some.injEq] at htodo
  subst htodo
  cases hvalue : (r.getParameter key w.store).result with
  | error e => exact .of_fails (.inl (.parameter hr hvalue)) rfl rfl
  | ok value =>
    refine .of_success (not_unable hr nofun) ?_ nofun rfl nofun
    rw [fails_get_iff hr]
    rintro ⟨e, h⟩
    cases hvalue.symm.trans h

/-- A listing is found and printed, and each of these steps may be the last. -/
theorem ended_list (hr : w.resolver common = .ok r) {todo : Plan}
    (htodo : (w.setting.plan r (.list path listFormat) w.store).1 = some todo) :
    let done := todo.perform w.system w.files
    Ended w common (.list path listFormat) done.1 done.2 := by
  simp only [Setting.plan, World.setting] at htodo
  cases hfound : (r.listParameters w.pages path w.store).result with
  | error e =>
    rw [hfound] at htodo
    obtain rfl := Option.some.inj htodo
    exact .of_fails (.inl (.listing hr hfound)) rfl rfl
  | ok found =>
    rw [hfound] at htodo
    cases found with
    | none => cases htodo
    | some ps =>
      obtain rfl := Option.some.inj htodo
      have hfails : ¬ Fails w common (.list path listFormat) := by
        rw [fails_list_iff hr]
        rintro ⟨e, h⟩
        cases hfound.symm.trans h
      simp only [Plan.perform, Setting.listed]
      cases hcontent : w.printer.listing listFormat ps with
      | error reason => exact .of_fails (.inr (.listing hr hfound hcontent)) rfl rfl
      | ok content =>
        refine .of_success (not_unable hr nofun) hfails ?_ rfl nofun
        rw [unprintable_list_iff hr]
        rintro ⟨ps', reason, hps, h⟩
        obtain rfl := Option.some.inj (Except.ok.inj (hfound.symm.trans hps))
        cases hcontent.symm.trans h

/-- Only a listing can be without an answer. -/
theorem plan_eq_none_iff (hr : w.resolver common = .ok r) :
    (w.setting.plan r command w.store).1 = none ↔ Endless w common command := by
  cases command with
  | resolve file resolveKey returnKey format output => exact iff_of_false nofun nofun
  | get key => exact iff_of_false nofun nofun
  | list path format =>
    rw [endless_list_iff hr]
    simp only [Setting.plan, World.setting]
    rcases (r.listParameters w.pages path w.store).result with e | _ | ps
    · exact iff_of_false nofun nofun
    · exact iff_of_true rfl rfl
    · exact iff_of_false nofun nofun

end

/-! ## The command line -/

section CommandLine

variable {w : World σ φ} {words : List String} {common : Common} {command : Command}

theorem plan_of_resolver_error (hparse : parse words = .ok (common, command)) {reason : String}
    (hr : w.resolver common = .error reason) :
    w.plan words = some (.report (unfit w.setting.coloured reason)) := by
  unfold World.resolver at hr
  simp only [World.plan, run, hparse, hr]

theorem plan_of_resolver_ok (hparse : parse words = .ok (common, command)) {r : Resolver σ}
    (hr : w.resolver common = .ok r) :
    w.plan words = (w.setting.plan r command w.store).1 := by
  unfold World.resolver at hr
  simp only [World.plan, run, hparse, hr]

end CommandLine

/-- A command that fails leaves nothing behind, whatever does not work. A command line that leads to
a command is answered, unless the command is a listing without an end. If the exit status is not 0,
nothing was printed on standard output, and all files are as they were unless it is the output file
that could not be written, and there was a fault: the status is 2 exactly if the options are
refused, the client cannot be built, the input file cannot be loaded or the output cannot be
written, and 1 exactly if a lookup, a listing or the substitutions in a text fail or what was found
cannot be printed, which the standard printer always can. If the status is 0 and a file was to be
resolved, then what resolving this file comes to was rendered and is all that is in the output file,
or was printed where there is none, but not both. -/
theorem run_ended (w : World σ φ) {words : List String} {common : Common} {command : Command}
    (hparse : parse words = .ok (common, command)) :
    (w.plan words = none ↔ Endless w common command) ∧
      (w.printer = .standard → ¬ Unprintable w common command) ∧
      ∀ todo, w.plan words = some todo →
        Ended w common command (todo.perform w.system w.files).1
          (todo.perform w.system w.files).2 := by
  refine ⟨?_, not_unprintable, fun todo htodo ↦ ?_⟩
  · cases hr : w.resolver common with
    | error reason =>
      rw [plan_of_resolver_error hparse hr]
      refine iff_of_false (by simp) ?_
      rintro ⟨hr', -⟩
      cases hr.symm.trans hr'
    | ok r => rw [plan_of_resolver_ok hparse hr, plan_eq_none_iff hr]
  · cases hr : w.resolver common with
    | error reason =>
      rw [plan_of_resolver_error hparse hr] at htodo
      obtain rfl := Option.some.inj htodo
      exact .of_unable (.setup (unready_iff.2 ⟨reason, hr⟩)) rfl rfl (.inl rfl)
    | ok r =>
      rw [plan_of_resolver_ok hparse hr] at htodo
      cases command with
      | resolve file resolveKey returnKey format output => exact ended_resolve hr htodo
      | get key => exact ended_get hr htodo
      | list path format => exact ended_list hr htodo

/-- The input file is missing, so the output file is not written. -/
theorem run_ended_missing :
    let w : World Unit Files := ⟨.empty, Files.system, .empty, .json .none, (), .standard, 1⟩
    let words := ["resolve", "a.yml", "-o", "b.yml"]
    ∃ todo, w.plan words = some todo ∧ (todo.perform w.system w.files).1.exit = 2 ∧
      (todo.perform w.system w.files).1.output = "" ∧
      (todo.perform w.system w.files).2 = .empty := by
  intro w words
  have hparse : parse words = .ok (⟨[], none, false, none, none, none⟩,
      .resolve "a.yml" none none .yaml (some "b.yml")) := by
    decide +kernel
  have hr : w.resolver ⟨[], none, false, none, none, none⟩ = .ok _ := rfl
  have hread : w.system.read "a.yml" w.files = .error .missing := by decide +kernel
  have hload : w.load "a.yml" = .error (.sourceNotFound "a.yml") := by
    rw [World.load, hread]
    rfl
  obtain ⟨hnone, -, hended⟩ := run_ended w hparse
  cases htodo : w.plan words with
  | none => cases hnone.1 htodo
  | some todo =>
    obtain ⟨-, hquiet, hunable, -, -⟩ := hended todo htodo
    have hexit := hunable.2 (.input hr hload)
    obtain ⟨houtput, hafter | hunwritten⟩ := hquiet (by omega)
    · exact ⟨todo, rfl, hexit, houtput, hafter⟩
    · rw [unwritten_resolve_iff hr] at hunwritten
      obtain ⟨v, -, -, -, -, hv, -⟩ := hunwritten
      cases (resolved_of_load_error hload).symm.trans hv

/-- A library that does not start is reported. -/
example :
    let library : Ssm.Library Unit := ⟨.error "out of threads", .none, .json⟩
    let w : World Unit Files := ⟨.empty, Files.system, .empty, library, (), .standard, 1⟩
    (w.plan ["get", "/a"]).map (fun todo ↦ (todo.perform w.system w.files).1) =
      some ⟨2, "", "Failed to create SSM client: parameter store unavailable: " ++
        "failed to start runtime: out of threads\n"⟩ := by
  decide +kernel

end CommandLine

end ConfigResolver

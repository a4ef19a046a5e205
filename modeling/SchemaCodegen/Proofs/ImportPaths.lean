import SchemaCodegen.Proofs.Closure
import SchemaCodegen.Proofs.Templates
import Mathlib.Data.List.Nodup

/-!
# Where imports lead

A unit that imports another model looks for it by the stem alone: in Dart in a directory of that stem
beside its own directory, in Python in its own directory. So what it imports is the file that is
written for the other model exactly if the template lays the files out in this way.
-/

namespace SchemaCodegen

/-! ## Files that are referred to -/

namespace Path

/-- The directory above another. A root is above itself; where no name is left, one goes back. -/
def up (path : Path) : Path :=
  match path.names.getLast? with
  | none => if path.root = "" then { path with names := [".."] } else path
  | some ".." => { path with names := path.names ++ [".."] }
  | some _ => path.parent

/-- Where a piece of a reference leads. -/
def enter (path : Path) (piece : List Char) : Path :=
  if !isName piece then path
  else if piece = ['.', '.'] then path.up
  else { path with names := path.names ++ [String.ofList piece] }

/-- Where a reference leads from a directory. -/
def follow (directory : Path) (reference : String) : Path :=
  (Text.pieces '/' reference.toList).foldl enter directory

/-- A path with more names behind it. -/
def append (path : Path) (names : List String) : Path := { path with names := path.names ++ names }

theorem up_append {path : Path} {name : String} (notBack : name ≠ "..") :
    (path.append [name]).up = path := by
  have isLast : (path.append [name]).names.getLast? = some name := by simp [append]
  rw [up, isLast]
  split
  next none_ => cases none_
  next same => exact absurd (Option.some.inj same) notBack
  next => simp [parent, append]

end Path

/-- The file of the module of an import, in the package of a directory or as many packages above it as
the import has further levels. -/
def Python.Import.file (entry : Import) (directory : Path) : Path :=
  let parts := (Text.pieces '.' entry.module.toList).map String.ofList
  (Path.up^[entry.level - 1] directory).append (parts.dropLast ++ [parts.getLastD "" ++ ".py"])

/-- The models that a unit in a directory imports from other units, each with the file where it looks
for it. -/
def Draft.importedFiles (draft : Draft) (directory : Path) : List (String × Path) :=
  match draft with
  | .dart library => library.imports.map fun entry => (entry.model, directory.follow entry.file)
  | .python module =>
    (module.imports.filter (·.level ≠ 0)).flatMap fun entry =>
      entry.names.map (·, entry.file directory)

namespace Language

/-- The names at the end of the paths of units, as the imports of a language expect them. -/
def layout : Language → List String
  | .dart => ["*", "*.dart"]
  | .python => ["*.py"]

/-- The directory in which these names are looked up from that of a unit. -/
def base : Language → Path → Path
  | .dart => Path.up
  | .python => id

/-- Characters that mean something else in an import: ends of a path, other characters and slashes in
a URI, and packages of a module. -/
def marks : Language → List Char
  | .dart => ['?', '#', '%', '\\']
  | .python => ['.']

/-- A stem that is one name of a path, also in an import. -/
structure Plain (language : Language) (stem : String) : Prop where
  isName : Template.IsName stem
  free : ∀ c ∈ language.marks, c ∉ stem.toList

end Language

/-- Stems by default are plain, unless they are empty. -/
theorem Config.plain_stem {config : Config} (byDefault : config.namer = .ok {}) {name stem : String}
    (given : config.stem name = .ok stem) (some_ : stem ≠ "") (language : Language) :
    language.Plain stem := by
  rw [Config.stem, byDefault, Outcome.ok_bind] at given
  have free : ∀ c, Words.isPart c = false → c ≠ '_' → c ∉ stem.toList := by
    intro c notPart other isChar
    rcases Naming.isPart_of_mem_fileStem given isChar with part | same
    · rw [notPart] at part
      cases part
    · exact other same
  have noDot : '.' ∉ stem.toList := free '.' (by decide) (by decide)
  refine ⟨⟨some_, ?_, ?_, free '/' (by decide) (by decide)⟩, ?_⟩
  · rintro rfl
    exact noDot (by decide)
  · rintro rfl
    exact noDot (by decide)
  · intro c isMark
    cases language <;> (simp only [Language.marks, List.mem_cons, List.not_mem_nil, or_false] at isMark)
    · rcases isMark with rfl | rfl | rfl | rfl
      all_goals exact free _ (by decide) (by decide)
    · exact isMark ▸ noDot

/-! ## Where units look for models -/

section Imports

variable {stem : String}

theorem map_layout_dart :
    Language.dart.layout.map (Template.fillName stem) = [stem, stem ++ ".dart"] := by
  have directory : Template.fillName stem "*" = stem ++ "" :=
    @Template.fillName_front stem "" (by decide)
  have file : Template.fillName stem "*.dart" = stem ++ ".dart" :=
    @Template.fillName_front stem ".dart" (by decide)
  simp [Language.layout, directory, file]

theorem map_layout_python :
    Language.python.layout.map (Template.fillName stem) = [stem ++ ".py"] := by
  have file : Template.fillName stem "*.py" = stem ++ ".py" :=
    @Template.fillName_front stem ".py" (by decide)
  simp [Language.layout, file]

theorem Path.enter_name {name : String} (isName : Template.IsName name) (path : Path) :
    path.enter name.toList = path.append [name] := by
  have isOne : Path.isName name.toList = true := by
    have notHere : name.toList ≠ ['.'] := fun same => isName.notHere (String.toList_inj.mp same)
    have some_ : name.toList ≠ [] := fun none_ => isName.some_ (String.toList_eq_nil_iff.mp none_)
    simp [Path.isName, notHere, some_]
  have notBack : name.toList ≠ ['.', '.'] := fun same => isName.notBack (String.toList_inj.mp same)
  rw [enter, isOne, if_neg (by simp), if_neg notBack, String.ofList_toList, append]

theorem follow_dart (isName : Template.IsName stem) (directory : Path) :
    directory.follow ("../" ++ stem ++ "/" ++ stem ++ ".dart") =
      directory.up.append [stem, stem ++ ".dart"] := by
  have isFile : Template.IsName (stem ++ ".dart") := isName.append (by decide) (by decide)
  have spelled : ("../" ++ stem ++ "/" ++ stem ++ ".dart").toList =
      ['.', '.'] ++ '/' :: (stem.toList ++ '/' :: (stem ++ ".dart").toList) := by
    simp
  rw [Path.follow, spelled, Text.pieces_append, Text.pieces_append,
    Text.pieces_of_not_mem isName.noSlash, Text.pieces_of_not_mem isFile.noSlash]
  show ((directory.enter ['.', '.']).enter stem.toList).enter (stem ++ ".dart").toList = _
  rw [Path.enter_name isName, Path.enter_name isFile]
  simp [Path.append, Path.enter, Path.isName]

theorem file_python (noDot : '.' ∉ stem.toList) (name : String) (directory : Path) :
    Python.Import.file { level := 1, module := stem, names := [name] } directory =
      directory.append [stem ++ ".py"] := by
  simp [Python.Import.file, Text.pieces_of_not_mem noDot]

end Imports

/-- A unit looks for each model by its stem alone. -/
theorem mem_importedFiles {config : Config} {models : List Model} {fileStem : String}
    {atHand : List String} {draft : Draft}
    (formed : Draft.ofModels config models fileStem atHand = .ok draft) {directory : Path}
    {entry : String × Path} (isEntry : entry ∈ draft.importedFiles directory) :
    entry.1 ∈ Model.imported models atHand ∧ ∃ stem, config.stem entry.1 = .ok stem ∧
      (config.language.Plain stem → entry.2 = (config.language.base directory).append
        (config.language.layout.map (Template.fillName stem))) := by
  unfold Draft.ofModels at formed
  cases language : config.language with
  | dart =>
    rw [language] at formed
    obtain ⟨library, ofModels, rfl⟩ := Outcome.map_eq_ok.mp formed
    obtain ⟨imports, ofImports, classes, _, rfl⟩ := Dart.Library.ofModels_eq_ok.mp ofModels
    obtain ⟨found, isImport, rfl⟩ := List.mem_map.mp isEntry
    obtain ⟨name, isName, stem, stemmed, rfl⟩ :=
      Outcome.exists_left (imports_eq_ok ofImports) isImport
    refine ⟨isName, stem, stemmed, ?_⟩
    intro plain
    rw [map_layout_dart]
    exact follow_dart plain.isName directory
  | python =>
    rw [language] at formed
    obtain ⟨module, ofModels, rfl⟩ := Outcome.map_eq_ok.mp formed
    obtain ⟨classes, _, siblings, ofSiblings, rfl⟩ := Python.Module.ofModels_eq_ok.mp ofModels
    obtain ⟨_, relative⟩ := @Python.Module.imports_of config (Python.unitHelpers config models)
      classes.flatten _ _ ofSiblings
    rw [Draft.importedFiles, relative] at isEntry
    obtain ⟨found, isImport, isEntry⟩ := List.mem_flatMap.mp isEntry
    obtain ⟨name, isName, stem, stemmed, rfl⟩ :=
      Outcome.exists_left (imports_eq_ok ofSiblings) isImport
    cases List.mem_singleton.mp isEntry
    refine ⟨isName, stem, stemmed, ?_⟩
    intro plain
    rw [map_layout_python]
    exact file_python (plain.free '.' (List.mem_cons_self ..)) name directory

namespace Template

/-- Whether a template lays out files as imports expect: where a stem makes the same names of the
names at its end as of the layout of the language, and no wildcard stands before them. -/
def Leads (language : Language) (template stem : String) : Prop :=
  ∃ front last, (Path.ofString template).names = front ++ last ∧
    (∀ name ∈ front, wildcard ∉ name.toList) ∧
    last.map (fillName stem) = language.layout.map (fillName stem)

section Paths

variable {language : Language} {template own stem : String} (isOwn : IsName own)
  (noBack : ".." ∉ (Path.ofString template).names)
include isOwn noBack

/-- Imports of a unit start from the names of the template before those that they expect. -/
theorem base_parent {front last : List String}
    (divided : (Path.ofString template).names = front ++ last)
    (long : last.length = language.layout.length) :
    language.base (path template own).parent =
      { root := (Path.ofString template).root, names := front.map (fillName own) } := by
  rw [path_eq isOwn, divided]
  cases language with
  | python =>
    obtain ⟨file, rfl⟩ := List.length_eq_one_iff.mp long
    simp [Language.base, Path.parent]
  | dart =>
    obtain ⟨directory, file, rfl⟩ := List.length_eq_two.mp long
    have notBack : fillName own directory ≠ ".." := by
      intro same
      have spelled : fill own.toList directory.toList = ['.', '.'] := by
        have chars := congrArg String.toList same
        simpa [fillName] using chars
      have isBack := (fill_eq_dots_iff isOwn (List.prefix_refl _)).mp spelled
      apply noBack
      rw [divided, ← (String.toList_inj.mp isBack : directory = "..")]
      simp
    have inDirectory : Path.parent { root := (Path.ofString template).root
                                     names := (front ++ [directory, file]).map (fillName own) } =
        Path.append { root := (Path.ofString template).root, names := front.map (fillName own) }
          [fillName own directory] := by
      simp [Path.parent, Path.append, List.dropLast_append_of_ne_nil]
    rw [inDirectory]
    exact Path.up_append notBack

/-- From the directory of one unit, the file of another is found exactly if the template leads to
it. -/
theorem leads_iff (isName : IsName stem) (different : own ≠ stem) :
    (language.base (path template own).parent).append (language.layout.map (fillName stem)) =
        path template stem ↔ Leads language template stem := by
  rw [path_eq isName]
  constructor
  · intro same
    have lengths := congrArg (fun path => path.names.length) same
    simp only [Path.append, List.length_append, List.length_map] at lengths
    obtain ⟨front, last, divided, long⟩ : ∃ front last,
        (Path.ofString template).names = front ++ last ∧ last.length = language.layout.length := by
      refine ⟨_, _, (List.take_append_drop
        ((Path.ofString template).names.length - language.layout.length) _).symm, ?_⟩
      rw [List.length_drop]
      omega
    have sameNames := congrArg Path.names same
    rw [base_parent isOwn noBack divided long, divided, List.map_append] at sameNames
    obtain ⟨fronts, lasts⟩ := List.append_inj sameNames (by simp)
    refine ⟨front, last, divided, ?_, lasts.symm⟩
    intro name isName wild
    exact different (fillName_inj wild (List.map_inj_left.mp fronts name isName))
  · rintro ⟨front, last, divided, fixed, lasts⟩
    have long : last.length = language.layout.length := by
      simpa using congrArg List.length lasts
    have fronts : front.map (fillName own) = front.map (fillName stem) := by
      rw [List.map_inj_left]
      intro name isName
      rw [fillName_of_not_mem (fixed name isName), fillName_of_not_mem (fixed name isName)]
    rw [base_parent isOwn noBack divided long, divided, List.map_append, lasts, fronts, Path.append]

end Paths

/-- A template that ends with the layout of a language, with no other wildcard, leads to all files. -/
theorem leads_of_layout {language : Language} {template : String} {front : List String}
    (divided : (Path.ofString template).names = front ++ language.layout)
    (fixed : ∀ name ∈ front, wildcard ∉ name.toList) (stem : String) :
    Leads language template stem :=
  ⟨front, language.layout, divided, fixed, rfl⟩

end Template

/-! ## The units of a rendering -/

namespace Generation

/-- Each unit of a rendering looks for the models that it imports, which have other stems than its
own, exactly where the template puts their units, if and only if the template is laid out as its
language expects; templates that end with that layout are. -/
theorem imports_lead_iff {generation : Generation} {tool : Option Formatter} {template : String}
    {result : Result} (returns : generation.render tool true (some template) = .ok result)
    (distinct : (generation.schema.models.map (generation.config.stem ·.name)).Nodup)
    (plain : ∀ model ∈ generation.schema.models, ∀ stem,
      generation.config.stem model.name = .ok stem → generation.config.language.Plain stem)
    (noBack : ".." ∉ (Path.ofString template).names) :
    (∀ file ∈ result.files, ∃ model ∈ generation.schema.models, ∃ fileStem, ∃ draft : Draft,
      generation.config.stem model.name = .ok file.1 ∧
      (Backend.draft { config := generation.config } [model] fileStem [model.name]).1 = .ok draft ∧
      generation.formatted tool draft.written = .ok file.2 ∧
      ∀ entry ∈ draft.importedFiles (Template.path template file.1).parent,
        ∀ other ∈ generation.schema.models, other.name = entry.1 →
          ∃ stem, generation.config.stem other.name = .ok stem ∧
            (entry.2 = Template.path template stem ↔
              Template.Leads generation.config.language template stem)) ∧
    ∀ front, (Path.ofString template).names = front ++ generation.config.language.layout →
      (∀ name ∈ front, Template.wildcard ∉ name.toList) →
        ∀ stem, Template.Leads generation.config.language template stem := by
  refine ⟨?_, fun front divided fixed stem => Template.leads_of_layout divided fixed stem⟩
  intro file isFile
  obtain ⟨model, isModel, stemmed, ofModel⟩ := exists_of_files returns isFile
  obtain ⟨draft, drafted, formatted⟩ := exists_draft ofModel
  refine ⟨model, isModel, _, draft, stemmed, drafted, formatted, ?_⟩
  rintro entry isEntry other isOther sameName
  rw [Backend.draft_fst] at drafted
  obtain ⟨imported, stem, ofOther, leads⟩ := mem_importedFiles drafted isEntry
  rw [← sameName] at imported ofOther
  have different : file.1 ≠ stem := by
    intro same
    have sameModel : model = other := by
      apply List.inj_on_of_nodup_map distinct isModel isOther
      rw [stemmed, ofOther, same]
    rw [sameModel] at imported
    exact (Model.mem_imported_self.mp imported).2 rfl
  have ownPlain := plain model isModel file.1 stemmed
  have otherPlain := plain other isOther stem ofOther
  refine ⟨stem, ofOther, ?_⟩
  rw [leads otherPlain]
  exact Template.leads_iff ownPlain.isName noBack otherPlain.isName different

/-- Owners find pets in one directory of units in Python. -/
theorem imports_lead_pets : ∃ result, petGeneration.render none true (some "lib/*.py") = .ok result ∧
    result.files.length = 2 ∧ ∀ file ∈ result.files, ∃ draft : Draft,
      petGeneration.formatted none draft.written = .ok file.2 ∧
        ∀ entry ∈ draft.importedFiles (Template.path "lib/*.py" file.1).parent,
          entry.1 = "Pet" → entry.2 = { names := ["lib", "pet.py"] } := by
  have isOk : Outcome.any (petGeneration.render none true (some "lib/*.py"))
      (fun result => result.files.length = 2) = true := by
    decide +kernel
  obtain ⟨result, returns, two⟩ := Outcome.any_iff.mp isOk
  have plain : ∀ model ∈ petGeneration.schema.models, ∀ stem,
      petGeneration.config.stem model.name = .ok stem → Language.python.Plain stem := by
    intro model isModel stem stemmed
    refine Config.plain_stem rfl stemmed ?_ .python
    rintro rfl
    have some_ : ∀ model ∈ petGeneration.schema.models,
        petGeneration.config.stem model.name ≠ .ok "" := by
      decide +kernel
    exact some_ model isModel stemmed
  obtain ⟨leads, laidOut⟩ := imports_lead_iff returns (by decide +kernel) plain (by decide)
  have always := laidOut ["lib"] (by decide) (by decide)
  refine ⟨result, returns, of_decide_eq_true two, ?_⟩
  intro file isFile
  obtain ⟨model, _, _, draft, _, _, formatted, found⟩ := leads file isFile
  refine ⟨draft, formatted, ?_⟩
  intro entry isEntry isPet
  obtain ⟨pet, isOther, named⟩ : ∃ pet ∈ petGeneration.schema.models, pet.name = "Pet" :=
    ⟨_, List.mem_cons_of_mem _ (List.mem_cons_self ..), rfl⟩
  obtain ⟨stem, stemmed, finds⟩ := found entry isEntry pet isOther (named.trans isPet.symm)
  have ofPet : petGeneration.config.stem "Pet" = .ok "pet" := by decide +kernel
  rw [named, ofPet] at stemmed
  rw [finds.mpr (always stem), ← Except.ok.inj stemmed]
  decide

/-- The same models in Dart. -/
def dartPets : Generation := { petGeneration with config := {} }

/-- In one directory of units in Dart, owners look for pets in a directory beside it. -/
theorem imports_miss_pets : ∃ result draft,
    dartPets.render none true (some "lib/*.dart") = .ok result ∧ result.files.keys = ["owner", "pet"] ∧
      (dartPets.schema.models.map (dartPets.config.stem ·.name)) = [.ok "owner", .ok "pet"] ∧
      Template.isSplit "lib/*.dart" = true ∧ ".." ∉ (Path.ofString "lib/*.dart").names ∧
      (Backend.draft { config := dartPets.config } (dartPets.schema.models.take 1) "owner"
        ["Owner"]).1 = .ok draft ∧
      ("Pet", { names := ["pet", "pet.dart"] }) ∈
        draft.importedFiles (Template.path "lib/*.dart" "owner").parent ∧
      Template.path "lib/*.dart" "pet" = { names := ["lib", "pet.dart"] } := by
  have rendered : Outcome.any (dartPets.render none true (some "lib/*.dart"))
      (fun result => result.files.keys = ["owner", "pet"]) = true := by
    decide +kernel
  have drafted : Outcome.any (Backend.draft { config := dartPets.config }
      (dartPets.schema.models.take 1) "owner" ["Owner"]).1 (fun draft =>
        ("Pet", { names := ["pet", "pet.dart"] }) ∈
          draft.importedFiles (Template.path "lib/*.dart" "owner").parent) = true := by
    decide +kernel
  obtain ⟨result, returns, both⟩ := Outcome.any_iff.mp rendered
  obtain ⟨draft, isDraft, looks⟩ := Outcome.any_iff.mp drafted
  exact ⟨result, draft, returns, of_decide_eq_true both, by decide +kernel, by decide, by decide,
    isDraft, of_decide_eq_true looks, by decide⟩

end Generation

end SchemaCodegen

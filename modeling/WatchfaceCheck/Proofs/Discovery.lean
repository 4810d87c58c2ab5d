import WatchfaceCheck.FileTree
import WatchfaceCheck.Proofs.Ancestors
import WatchfaceCheck.Toolchain
namespace WatchfaceCheck

open Text

def First (paths : List Path) (Has : Path → Prop) (found : Path) : Prop :=
  ∃ before after, paths = before ++ found :: after ∧ Has found ∧ ∀ p ∈ before, ¬ Has p

-- A path taken from a root: an absolute one stands for itself, any other leads on from the root.
structure Pinned (root p found : Path) : Prop where
  joined : found = root.join p
  kept : p.isAbsolute = true → found = p
  below : p.isAbsolute = false → found.steps = root.steps ++ p.steps

-- A path that means the same in every directory, and so does all that stands below it.
structure Fixed (p : Path) : Prop where
  absolute : p.isAbsolute = true
  itself : ∀ directory : Path, directory.join p = p
  same : ∀ (tree : FileTree) here there, tree.resolve here p = tree.resolve there p
  inside : ∀ (tree : FileTree) here there inner,
    tree.resolve here (p.join inner) = tree.resolve there (p.join inner)

section

variable {has : Path → Bool} {Has : Path → Prop} (same : ∀ p, has p = true ↔ Has p)

include same

theorem find?_eq_some_iff_first {paths : List Path} {found : Path} :
    paths.find? has = some found ↔ First paths Has found := by
  rw [List.find?_eq_some_iff_append]
  constructor
  · rintro ⟨holds, before, after, whole, others⟩
    refine ⟨before, after, whole, (same found).mp holds, ?_⟩
    intro p listed held
    have misses := others p listed
    rw [(same p).mpr held] at misses
    cases misses
  · rintro ⟨before, after, whole, holds, others⟩
    refine ⟨(same found).mpr holds, before, after, whole, ?_⟩
    intro p listed
    rw [Bool.not_eq_true', Bool.eq_false_iff]
    intro held
    exact others p listed ((same p).mp held)

theorem find?_eq_none_iff_not {paths : List Path} :
    paths.find? has = none ↔ ∀ p ∈ paths, ¬ Has p := by
  rw [List.find?_eq_none]
  constructor
  · intro misses p listed held
    exact misses p listed ((same p).mpr held)
  · intro misses p listed held
    exact misses p listed ((same p).mp held)

end

theorem eq_none_iff_not {α : Type} {value : Option α} {Has : α → Prop}
    (same : ∀ a, value = some a ↔ Has a) : value = none ↔ ∀ a, ¬ Has a := by
  rw [Option.eq_none_iff_forall_ne_some]
  constructor
  · intro nothing a held
    exact nothing a ((same a).mpr held)
  · intro nothing a one
    exact nothing a ((same a).mp one)

theorem pinned_iff {root p found : Path} : Pinned root p found ↔ root.join p = found := by
  constructor
  · intro pinned
    exact pinned.joined.symm
  · rintro rfl
    refine ⟨rfl, ?_, ?_⟩
    · intro absolute
      exact Path.join_of_isAbsolute absolute root
    · intro relative
      exact Path.steps_join_relative root relative

theorem Pinned.isAbsolute {root p found : Path} (absolute : root.isAbsolute = true)
    (pinned : Pinned root p found) : found.isAbsolute = true := by
  rw [pinned.joined]
  exact Path.isAbsolute_join absolute p

theorem resolve_of_isAbsolute {p : Path} (absolute : p.isAbsolute = true) (tree : FileTree)
    (here there : List Path.Part) : tree.resolve here p = tree.resolve there p := by
  unfold FileTree.resolve
  simp only [absolute, if_true]

theorem Fixed.of_isAbsolute {p : Path} (absolute : p.isAbsolute = true) : Fixed p := by
  refine ⟨absolute, ?_, ?_, ?_⟩
  · intro directory
    exact Path.join_of_isAbsolute absolute directory
  · intro tree here there
    exact resolve_of_isAbsolute absolute tree here there
  · intro tree here there inner
    exact resolve_of_isAbsolute (Path.isAbsolute_join absolute inner) tree here there

namespace ToolRequest

def Executable (files : Files) (p : Path) : Prop :=
  ∃ file, files.look p = .ok (.file file) ∧ file.executable = true

def Searched (host : Host) (name found : Path) : Prop :=
  First (host.environment.commandPaths name) (Executable host.files) found

inductive Stated (explicit : Option Path) (setting : Option String) : Path → Prop
  | explicit {p : Path} (told : explicit = some p) : Stated explicit setting p
  | setting {text : String} (untold : explicit = none) (set : setting = some text) :
    Stated explicit setting ⟨text⟩

def Bare (name : Path) : Prop := name.componentCount = 1 ∧ name.isAbsolute = false

inductive NodeAt (host : Host) (root : Path) : Path → Path → Prop
  | command {name found : Path} (bare : Bare name) (searched : Searched host name found) :
    NodeAt host root name found
  | unknown {name found : Path} (bare : Bare name) (missing : ∀ other, ¬ Searched host name other)
    (pinned : Pinned root name found) : NodeAt host root name found
  | file {name found : Path} (whole : ¬ Bare name) (pinned : Pinned root name found) :
    NodeAt host root name found

inductive NodeIs (host : Host) (request : ToolRequest) : Path → Prop
  | stated {name found : Path} (told : Stated request.node host.environment.node name)
    (resolved : NodeAt host request.searchRoot name found) : NodeIs host request found
  | searched {found : Path} (untold : ∀ name, ¬ Stated request.node host.environment.node name)
    (listed : Searched host ⟨"node"⟩ found) : NodeIs host request found

def HasPackage (files : Files) (directory : Path) : Prop :=
  ∃ file, files.look (directory.join ⟨"package.json"⟩) = .ok (.file file)

def packageIn (directory : Path) : Path :=
  (directory.join ⟨"node_modules"⟩).join ⟨"typescript"⟩

-- npm is asked where it keeps packages for all projects. It may leave another host behind.
structure GlobalRoot (host left : Host) (root : Path) : Prop where
  asked : ∃ npm done, Searched host ⟨"npm"⟩ npm
    ∧ host.start { program := npm, arguments := ["root", "-g"] } = (left, .ok done)
    ∧ done.ending = .exited 0 ∧ root.text = trimmed (lossy (Utf8.symbols done.output))
  stated : root.text ≠ ""

-- Where typescript is: as it is said to be, else with the nearest of the search root and the
-- directories above it that has the package, else where npm keeps it.
inductive TypescriptIs (host : Host) (request : ToolRequest) : Host → Path → Prop
  | stated {p found : Path} (told : Stated request.typescript host.environment.typescript p)
    (pinned : Pinned request.searchRoot p found) : TypescriptIs host request host found
  | near {directory : Path}
    (untold : ∀ p, ¬ Stated request.typescript host.environment.typescript p)
    (nearest : First request.searchRoot.ancestors
      (fun above => HasPackage host.files (packageIn above)) directory) :
    TypescriptIs host request host (packageIn directory)
  | shared {left : Host} {root : Path}
    (untold : ∀ p, ¬ Stated request.typescript host.environment.typescript p)
    (nowhere : ∀ above ∈ request.searchRoot.ancestors, ¬ HasPackage host.files (packageIn above))
    (asked : GlobalRoot host left root)
    (kept : HasPackage left.files (root.join ⟨"typescript"⟩)) :
    TypescriptIs host request left (root.join ⟨"typescript"⟩)

section

variable {host left : Host} {request : ToolRequest} {name found root : Path}

theorem file_test_iff (files : Files) (p : Path) (test : StoredFile → Bool) :
    (match files.look p with
      | .ok (.file file) => test file
      | _ => false) = true ↔ ∃ file, files.look p = .ok (.file file) ∧ test file = true := by
  split
  · next file look => simp [look]
  · next other =>
    constructor
    · intro impossible
      cases impossible
    · rintro ⟨file, look, -⟩
      exact absurd look (other file)

theorem isExecutable_iff (files : Files) (p : Path) :
    files.isExecutable p = true ↔ Executable files p :=
  file_test_iff files p StoredFile.executable

theorem isPackage_iff (host : Host) (directory : Path) :
    isPackage host directory = true ↔ HasPackage host.files directory := by
  have told := file_test_iff host.files (directory.join ⟨"package.json"⟩) fun _ => true
  simp only [and_true] at told
  exact told

theorem command?_eq_some_iff : host.command? name = some found ↔ Searched host name found :=
  find?_eq_some_iff_first (isExecutable_iff host.files)

theorem command?_eq_none_iff : host.command? name = none ↔ ∀ other, ¬ Searched host name other :=
  eq_none_iff_not fun _ => command?_eq_some_iff

theorem chosen_eq_some_iff {explicit : Option Path} {setting : Option String} {p : Path} :
    chosen explicit setting = some p ↔ Stated explicit setting p := by
  unfold chosen
  constructor
  · intro found
    cases explicit with
    | some told =>
      cases found
      exact .explicit rfl
    | none =>
      cases setting with
      | none => cases found
      | some text =>
        cases found
        exact .setting rfl rfl
  · intro stated
    cases stated with
    | explicit told => rw [told]; rfl
    | setting untold set => rw [untold, set]; rfl

theorem chosen_eq_none_iff {explicit : Option Path} {setting : Option String} :
    chosen explicit setting = none ↔ ∀ p, ¬ Stated explicit setting p :=
  eq_none_iff_not fun _ => chosen_eq_some_iff

theorem bare_iff : (name.componentCount == 1 && !name.isAbsolute) = true ↔ Bare name := by
  simp [Bare]

theorem resolveNode_eq_iff :
    request.resolveNode host name = found ↔ NodeAt host request.searchRoot name found := by
  unfold resolveNode
  constructor
  · intro resolved
    split at resolved
    · next single =>
      have bare := bare_iff.mp single
      cases searched : host.command? name with
      | some path =>
        rw [searched, Option.getD_some] at resolved
        rw [← resolved]
        exact .command bare (command?_eq_some_iff.mp searched)
      | none =>
        rw [searched, Option.getD_none] at resolved
        exact .unknown bare (command?_eq_none_iff.mp searched) (pinned_iff.mpr resolved)
    · next other =>
      refine .file ?_ (pinned_iff.mpr resolved)
      intro bare
      exact other (bare_iff.mpr bare)
  · intro resolved
    cases resolved with
    | command bare searched =>
      rw [if_pos (bare_iff.mpr bare), command?_eq_some_iff.mpr searched, Option.getD_some]
    | unknown bare missing pinned =>
      rw [if_pos (bare_iff.mpr bare), command?_eq_none_iff.mpr missing, Option.getD_none]
      exact pinned_iff.mp pinned
    | file whole pinned =>
      rw [if_neg (mt bare_iff.mp whole)]
      exact pinned_iff.mp pinned

theorem node?_eq_some_iff : request.node? host = some found ↔ NodeIs host request found := by
  unfold node?
  constructor
  · intro chosen
    split at chosen
    · next name told =>
      cases chosen
      exact .stated (chosen_eq_some_iff.mp told) (resolveNode_eq_iff.mp rfl)
    · next untold =>
      exact .searched (chosen_eq_none_iff.mp untold) (command?_eq_some_iff.mp chosen)
  · intro known
    cases known with
    | stated told resolved =>
      rw [chosen_eq_some_iff.mpr told]
      exact congrArg some (resolveNode_eq_iff.mpr resolved)
    | searched untold listed =>
      rw [chosen_eq_none_iff.mpr untold]
      exact command?_eq_some_iff.mpr listed

theorem node?_eq_none_iff : request.node? host = none ↔ ∀ other, ¬ NodeIs host request other :=
  eq_none_iff_not fun _ => node?_eq_some_iff

theorem find?_localPackages : request.localPackages.find? (isPackage host)
    = (request.searchRoot.ancestors.find? fun above => isPackage host (packageIn above)).map
      packageIn := List.find?_map

theorem rootOfAnswer?_eq_some_iff {answer : Except FileError Completed} :
    rootOfAnswer? answer = some root ↔ ∃ done, answer = .ok done ∧ done.ending = .exited 0
      ∧ root.text = trimmed (lossy (Utf8.symbols done.output)) ∧ root.text ≠ "" := by
  cases answer with
  | error e => simp [rootOfAnswer?]
  | ok done =>
    obtain ⟨written⟩ := root
    have success : done.ending.isSuccess = true ↔ done.ending = .exited 0 := by
      simp [Ending.isSuccess]
    have filled (text : String) : (!text.isEmpty) = true ↔ text ≠ "" := by simp
    simp only [rootOfAnswer?, Option.ite_none_right_eq_some, Bool.and_eq_true, success, filled,
      Option.some.injEq, Path.mk.injEq]
    constructor
    · rintro ⟨⟨ending, stated⟩, same⟩
      cases same
      exact ⟨done, rfl, ending, rfl, stated⟩
    · rintro ⟨_, same, ending, text, stated⟩
      cases same
      rw [text] at stated
      exact ⟨⟨ending, stated⟩, text.symm⟩

theorem globalRoot?_eq_some_iff :
    globalRoot? host = (left, some root) ↔ GlobalRoot host left root := by
  unfold globalRoot?
  constructor
  · intro told
    split at told
    · cases told
    · next npm searched =>
      obtain ⟨after, answer⟩ := Prod.mk.inj told
      obtain ⟨done, ran, ending, text, stated⟩ := rootOfAnswer?_eq_some_iff.mp answer
      refine ⟨⟨npm, done, command?_eq_some_iff.mp searched, ?_, ending, text⟩, stated⟩
      rw [← after, ← ran]
  · rintro ⟨⟨npm, done, searched, ran, ending, text⟩, stated⟩
    simp only [command?_eq_some_iff.mpr searched, ran]
    rw [rootOfAnswer?_eq_some_iff.mpr ⟨done, rfl, ending, text, stated⟩]

theorem globalPackage?_eq_some_iff : globalPackage? host = (left, some found)
    ↔ ∃ root, GlobalRoot host left root ∧ HasPackage left.files (root.join ⟨"typescript"⟩)
      ∧ found = root.join ⟨"typescript"⟩ := by
  unfold globalPackage?
  constructor
  · intro told
    obtain ⟨after, kept⟩ := Prod.mk.inj told
    obtain ⟨package, holds⟩ := Option.filter_eq_some_iff.mp kept
    obtain ⟨root, answered, same⟩ := Option.map_eq_some_iff.mp package
    subst same
    rw [after] at holds
    refine ⟨root, globalRoot?_eq_some_iff.mp ?_, (isPackage_iff left _).mp holds, rfl⟩
    rw [← after, ← answered]
  · rintro ⟨root, asked, kept, rfl⟩
    rw [globalRoot?_eq_some_iff.mpr asked]
    simp only [Option.map_some]
    rw [Option.filter_some_pos ((isPackage_iff left _).mpr kept)]

theorem typescript?_eq_some_iff :
    request.typescript? host = (left, some found) ↔ TypescriptIs host request left found := by
  have packaged (above : Path) := isPackage_iff host (packageIn above)
  unfold typescript?
  constructor
  · intro told
    split at told
    · next p given =>
      cases told
      exact .stated (chosen_eq_some_iff.mp given) (pinned_iff.mpr rfl)
    · next untold =>
      have nothing := chosen_eq_none_iff.mp untold
      rw [find?_localPackages] at told
      split at told
      · next package stands =>
        cases told
        obtain ⟨directory, nearest, rfl⟩ := Option.map_eq_some_iff.mp stands
        exact .near nothing ((find?_eq_some_iff_first packaged).mp nearest)
      · next nowhere =>
        obtain ⟨root, asked, kept, rfl⟩ := globalPackage?_eq_some_iff.mp told
        have far := (find?_eq_none_iff_not packaged).mp (Option.map_eq_none_iff.mp nowhere)
        exact .shared nothing far asked kept
  · intro known
    cases known with
    | stated told pinned =>
      rw [chosen_eq_some_iff.mpr told]
      simp only [pinned_iff.mp pinned]
    | near untold nearest =>
      rw [chosen_eq_none_iff.mpr untold, find?_localPackages,
        (find?_eq_some_iff_first packaged).mpr nearest]
      rfl
    | shared untold nowhere asked kept =>
      rw [chosen_eq_none_iff.mpr untold, find?_localPackages,
        (find?_eq_none_iff_not packaged).mpr nowhere]
      exact globalPackage?_eq_some_iff.mpr ⟨_, asked, kept, rfl⟩

theorem locate_eq_ok_iff {tools : Toolchain} : request.locate host = (left, .ok tools)
    ↔ NodeIs host request tools.node ∧ TypescriptIs host request left tools.typescript := by
  unfold locate
  constructor
  · intro located
    split at located
    · cases located
    · next node known =>
      split at located
      · cases located
      · next after package asked =>
        cases located
        exact ⟨node?_eq_some_iff.mp known, typescript?_eq_some_iff.mp asked⟩
  · rintro ⟨node, package⟩
    rw [node?_eq_some_iff.mpr node]
    simp only [typescript?_eq_some_iff.mpr package]

-- Without node nothing is asked about typescript, and so nothing is said of it.
theorem locate_of_missing_node (missing : ∀ node, ¬ NodeIs host request node) :
    request.locate host = (host, .error (.detect host.files request.searchRoot .node)) := by
  unfold locate
  rw [node?_eq_none_iff.mpr missing]

theorem locate_of_missing_typescript (known : NodeIs host request found)
    (missing : ∀ left package, ¬ TypescriptIs host request left package) :
    ∃ left, request.locate host
      = (left, .error (.detect left.files request.searchRoot .typescript)) := by
  unfold locate
  rw [node?_eq_some_iff.mpr known]
  cases asked : request.typescript? host with
  | mk after package =>
    cases package with
    | none => exact ⟨after, rfl⟩
    | some package => exact absurd (typescript?_eq_some_iff.mp asked) (missing after package)

theorem NodeIs.isAbsolute (absolute : request.searchRoot.isAbsolute = true)
    (search : ∀ name found, Searched host name found → found.isAbsolute = true)
    (known : NodeIs host request found) : found.isAbsolute = true := by
  cases known with
  | stated told resolved =>
    cases resolved with
    | command bare searched => exact search _ _ searched
    | unknown bare missing pinned => exact pinned.isAbsolute absolute
    | file whole pinned => exact pinned.isAbsolute absolute
  | searched untold listed => exact search _ _ listed

theorem TypescriptIs.isAbsolute (absolute : request.searchRoot.isAbsolute = true)
    (answer : ∀ left root, GlobalRoot host left root → root.isAbsolute = true)
    (known : TypescriptIs host request left found) : found.isAbsolute = true := by
  cases known with
  | stated told pinned => exact pinned.isAbsolute absolute
  | near untold nearest =>
    obtain ⟨before, after, whole, -, -⟩ := nearest
    have listed : _ ∈ request.searchRoot.ancestors := whole ▸ List.mem_append_cons_self
    have rooted := Path.isAbsolute_of_mem_ancestors absolute listed
    exact Path.isAbsolute_join (Path.isAbsolute_join rooted _) _
  | shared untold nowhere asked kept => exact Path.isAbsolute_join (answer _ _ asked) _

end

-- Node is settled first, then typescript. Each is what its first place tells, the directories above
-- the search root being taken nearest first; and if all that the places tell is absolute, a run may
-- go on in any directory with the same tools.
theorem located_by_precedence (host : Host) (request : ToolRequest) :
    (∀ left tools, request.locate host = (left, .ok tools)
      ↔ NodeIs host request tools.node ∧ TypescriptIs host request left tools.typescript)
    ∧ ((∀ node, ¬ NodeIs host request node)
      → request.locate host = (host, .error (.detect host.files request.searchRoot .node)))
    ∧ (∀ node, NodeIs host request node
      → (∀ left package, ¬ TypescriptIs host request left package)
      → ∃ left, request.locate host
        = (left, .error (.detect left.files request.searchRoot .typescript)))
    ∧ request.searchRoot.ancestors.map Path.place
      = request.searchRoot.steps.inits.reverse.map (fun steps => (request.searchRoot.anchor, steps))
        ++ Path.foot request.searchRoot.anchor
    ∧ (request.searchRoot.isAbsolute = true
      → (∀ name found, Searched host name found → found.isAbsolute = true)
      → (∀ left root, GlobalRoot host left root → root.isAbsolute = true)
      → ∀ left tools, request.locate host = (left, .ok tools)
        → Fixed tools.node ∧ Fixed tools.typescript) := by
  refine ⟨?_, ?_, ?_, ?_, ?_⟩
  · intro left tools
    exact locate_eq_ok_iff
  · intro missing
    exact locate_of_missing_node missing
  · intro node known missing
    exact locate_of_missing_typescript known missing
  · exact Path.places_ancestors request.searchRoot
  · intro absolute search answer left tools located
    obtain ⟨node, package⟩ := locate_eq_ok_iff.mp located
    constructor
    · exact Fixed.of_isAbsolute (node.isAbsolute absolute search)
    · exact Fixed.of_isAbsolute (package.isAbsolute absolute answer)

def sharingHost : Host where
  State := Unit
  state := ()
  filesIn := fun _ => ⟨fun p =>
    if p.text ∈ ["/bin/node", "/bin/npm"] then .ok (.file ⟨[], true⟩)
    else if p.text = "/lib/node_modules/typescript/package.json" then .ok (.file ⟨[], false⟩)
    else .error .notFound⟩
  environment := { searchPath := some "/bin" }
  scratch := .error .permissionDenied
  reachIn := fun _ _ => .ok ()
  storeIn := fun state _ => .ok state
  launchIn := fun state _ =>
    (state, .ok { ending := .exited 0, output := bytesOf "/lib/node_modules\n" })

theorem isAbsolute_on_sharing {p : Path} {file : StoredFile}
    (look : sharingHost.files.look p = .ok (.file file)) : p.isAbsolute = true := by
  obtain ⟨text⟩ := p
  simp only [Host.files, sharingHost] at look
  split at look
  · next program =>
    simp only [List.mem_cons, List.not_mem_nil, or_false] at program
    rcases program with rfl | rfl
    · decide
    · decide
  · split at look
    · next package =>
      cases package
      decide
    · cases look

theorem answer_on_sharing {left : Host} {root : Path} (asked : GlobalRoot sharingHost left root) :
    root = ⟨"/lib/node_modules"⟩ := by
  obtain ⟨⟨npm, done, -, ran, -, printed⟩, -⟩ := asked
  obtain ⟨text⟩ := root
  unfold Host.start at ran
  split at ran
  · cases ran
  · cases ran
    have trimmed_answer : trimmed (lossy (Utf8.symbols (bytesOf "/lib/node_modules\n")))
        = "/lib/node_modules" := by with_unfolding_all rfl
    exact congrArg Path.mk (printed.trans trimmed_answer)

def fromFace : ToolRequest := { searchRoot := ⟨"/work/face"⟩ }

theorem located_on_sharing :
    fromFace.locate sharingHost
        = (sharingHost, .ok ⟨⟨"/bin/node"⟩, ⟨"/lib/node_modules/typescript"⟩⟩)
      ∧ Fixed ⟨"/bin/node"⟩ ∧ Fixed ⟨"/lib/node_modules/typescript"⟩ := by
  have untold (p : Path) : ¬ Stated none none p := by
    intro stated
    cases stated with
    | explicit told => cases told
    | setting _ set => cases set
  have node : Searched sharingHost ⟨"node"⟩ ⟨"/bin/node"⟩ :=
    ⟨[], [], by rfl, ⟨_, rfl, rfl⟩, by simp⟩
  have npm : Searched sharingHost ⟨"npm"⟩ ⟨"/bin/npm"⟩ :=
    ⟨[], [], by rfl, ⟨_, rfl, rfl⟩, by simp⟩
  have asked : GlobalRoot sharingHost sharingHost ⟨"/lib/node_modules"⟩ :=
    ⟨⟨_, _, npm, rfl, rfl, by with_unfolding_all rfl⟩, by decide⟩
  have above : fromFace.searchRoot.ancestors = [⟨"/work/face"⟩, ⟨"/work"⟩, ⟨"/"⟩] := by
    with_unfolding_all rfl
  have nowhere : ∀ above ∈ fromFace.searchRoot.ancestors,
      ¬ HasPackage sharingHost.files (packageIn above) := by
    rw [above]
    rintro above listed ⟨file, look⟩
    have missing : sharingHost.files.look ((packageIn above).join ⟨"package.json"⟩)
        = .error .notFound := by
      simp only [List.mem_cons, List.not_mem_nil, or_false] at listed
      rcases listed with rfl | rfl | rfl <;> rfl
    rw [missing] at look
    cases look
  obtain ⟨found, -, -, -, fixed⟩ := located_by_precedence sharingHost fromFace
  have located := (found sharingHost ⟨⟨"/bin/node"⟩, ⟨"/lib/node_modules/typescript"⟩⟩).mpr
    ⟨.searched untold node, .shared untold nowhere asked ⟨_, rfl⟩⟩
  refine ⟨located, fixed (by decide) ?_ ?_ _ _ located⟩
  · rintro name found ⟨-, -, -, ⟨file, look, -⟩, -⟩
    exact isAbsolute_on_sharing look
  · intro left root asked
    rw [answer_on_sharing asked]
    decide

end ToolRequest

end WatchfaceCheck

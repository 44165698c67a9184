import EnvOperator.Proofs.Run.Independence
import EnvOperator.Proofs.Target.Images

/-! # Source archives

The key of an archive is put together from the folder, the namespace, the name of the environment
and the revision. Namespaces and names have no slashes, revisions may have any, and still the parts
can be told from the key: no two revisions of any environments share an archive.
-/
namespace EnvOperator

namespace Naming
variable {folder : String} {key key' : ObjectKey} {revision revision' : String}

def folderFront (folder : String) : String :=
  if Text.trim '/' folder = "" then "" else Text.trim '/' folder ++ "/"

def archivePath (key : ObjectKey) (revision : String) : String :=
  key.text ++ "/" ++ revision ++ ".tar.gz"

theorem sourceArchiveKey_eq (folder : String) (key : ObjectKey) (revision : String) :
    sourceArchiveKey folder key.ns key.name revision =
      folderFront folder ++ archivePath key revision := by
  have hpath : archivePath key revision = key.ns ++ "/" ++ key.name ++ "/" ++ revision ++
      ".tar.gz" := rfl
  unfold sourceArchiveKey folderFront
  dsimp only
  rw [hpath]
  split
  · rw [String.empty_append]
  · rfl

/-- The namespace ends at the first slash and the name at the second; what follows, slashes or not,
is the revision. -/
theorem archivePath_inj (h : key.SlashFree) (h' : key'.SlashFree) :
    archivePath key revision = archivePath key' revision' ↔ key = key' ∧ revision = revision' := by
  constructor
  · intro hpath
    have hchars : key.ns.toList ++ '/' ::
        (key.name.toList ++ '/' :: (revision ++ ".tar.gz").toList) =
        key'.ns.toList ++ '/' :: (key'.name.toList ++ '/' :: (revision' ++ ".tar.gz").toList) := by
      simpa [archivePath, ObjectKey.text] using congrArg String.toList hpath
    obtain ⟨hns, hchars⟩ := (Text.cut_inj h.1 h'.1).mp hchars
    obtain ⟨hname, hchars⟩ := (Text.cut_inj h.2 h'.2).mp hchars
    refine ⟨?_, (String.append_left_inj _).mp (String.toList_injective hchars)⟩
    cases key
    cases key'
    exact congrArg₂ ObjectKey.mk (String.toList_injective hns) (String.toList_injective hname)
  · rintro ⟨rfl, rfl⟩
    rfl

theorem sourceArchiveKey_inj (folder : String) (h : key.SlashFree) (h' : key'.SlashFree) :
    sourceArchiveKey folder key.ns key.name revision =
      sourceArchiveKey folder key'.ns key'.name revision' ↔
      key = key' ∧ revision = revision' := by
  rw [sourceArchiveKey_eq, sourceArchiveKey_eq, String.append_right_inj, archivePath_inj h h']

theorem sourceArchiveKey_not_startsWith (h : key.SlashFree) (hns : key.ns ≠ "") :
    Text.startsWith "/" (sourceArchiveKey folder key.ns key.name revision) = false := by
  have hne {s t : String} (hs : s ≠ "") (hhead : s.toList.head? ≠ some '/') :
      Text.startsWith "/" (s ++ t) = false := by
    refine Bool.eq_false_iff.mpr fun hstarts => hhead ?_
    obtain ⟨rest, hrest⟩ := Text.startsWith_iff.mp hstarts
    obtain ⟨d, ds, hchars⟩ := List.exists_cons_of_ne_nil (mt String.toList_eq_nil_iff.mp hs)
    have hfirst := congrArg (fun u : String => u.toList.head?) hrest
    simpa [hchars] using hfirst
  rw [sourceArchiveKey_eq, folderFront]
  split
  · rw [String.empty_append, archivePath, ObjectKey.text]
    simp only [String.append_assoc]
    exact hne hns fun hhead => h.1 (List.mem_of_head? hhead)
  · rename_i hfolder
    rw [String.append_assoc]
    exact hne hfolder (Text.head?_trim '/' folder)

theorem sourceArchiveKey_surrounded (folder : String) (before after : Nat)
    (ns environment revision : String) :
    sourceArchiveKey (String.ofList (List.replicate before '/') ++ folder ++
      String.ofList (List.replicate after '/'))
      ns environment revision = sourceArchiveKey folder ns environment revision := by
  unfold sourceArchiveKey
  rw [Text.trim_surrounded]

end Naming

namespace Snapshot
variable {x y : Snapshot}

/-- Two environments are built by the operator's own arguments from the same storage. -/
structure SharesStorage (x y : Snapshot) : Prop where
  storage : x.config.spec.storage = y.config.spec.storage
  left : x.environment.spec.build.args = none
  right : y.environment.spec.build.args = none

def archiveKey (x : Snapshot) : String :=
  Naming.sourceArchiveKey (x.config.spec.storage.folder.getD "") x.key.ns x.key.name x.revisionText

theorem context_buildJob (hargs : x.environment.spec.build.args = none) :
    x.target.job.options "context" =
      ["s3://" ++ x.config.spec.storage.bucket.getD "" ++ "/" ++ x.archiveKey] := by
  have hfront : "--" ++ "context" ++ "=" = "--context=" := rfl
  have hcontext (rest : String) :
      Text.after? "--context=" ("--context=s3://" ++ rest) = some ("s3://" ++ rest) :=
    Text.after?_append "--context=" ("s3://" ++ rest)
  rw [options_builderArgs hargs, builderArgs, hfront]
  simp only [List.filterMap_append, List.filterMap_cons, List.filterMap_nil, String.append_assoc,
    hcontext]
  split_ifs <;> simp [Text.after?, Text.stripChars, archiveKey]

theorem SharesStorage.context_inj (h : x.SharesStorage y) :
    x.target.job.options "context" = y.target.job.options "context" ↔
    x.archiveKey = y.archiveKey := by
  rw [context_buildJob h.left, context_buildJob h.right, h.storage, List.cons.injEq,
    String.append_right_inj]
  exact and_iff_left rfl

end Snapshot

/-- Whatever the folder, archives of different namespaces, environments or revisions have different
keys, also where revisions have slashes of their own; and a key begins with a slash for no namespace
that is given. Slashes around the folder make no difference. So builders that use one storage are
given the same archive only for one revision of one environment, where one that asks for no revision
counts as asking for the empty one. -/
theorem Naming.archives_apart :
    (∀ (folder : String) (key key' : ObjectKey) (revision revision' : String), key.SlashFree →
      key'.SlashFree →
      (sourceArchiveKey folder key.ns key.name revision =
        sourceArchiveKey folder key'.ns key'.name revision' ↔
        key = key' ∧ revision = revision')) ∧
    (∀ (folder : String) (key : ObjectKey) (revision : String), key.SlashFree → key.ns ≠ "" →
      Text.startsWith "/" (sourceArchiveKey folder key.ns key.name revision) = false) ∧
    (∀ (folder : String) (before after : Nat) (ns environment revision : String),
      sourceArchiveKey
        (String.ofList (List.replicate before '/') ++ folder ++
          String.ofList (List.replicate after '/'))
        ns environment revision = sourceArchiveKey folder ns environment revision) ∧
    ∀ x y : Snapshot, x.SharesStorage y → x.key.SlashFree → y.key.SlashFree →
      (x.target.job.options "context" = y.target.job.options "context" ↔
        x.key = y.key ∧ x.revisionText = y.revisionText) := by
  refine ⟨fun folder _ _ _ _ => sourceArchiveKey_inj folder,
    fun _ _ _ => sourceArchiveKey_not_startsWith, sourceArchiveKey_surrounded,
    fun x y h hx hy => ?_⟩
  rw [h.context_inj, Snapshot.archiveKey, Snapshot.archiveKey, h.storage]
  exact sourceArchiveKey_inj _ hx hy

/-- A revision that reads like the end of a key, slashes at both ends of a folder, and one name in
two namespaces. -/
theorem Naming.archives_apart_nested :
    (⟨"dev", "web"⟩ : ObjectKey).SlashFree ∧ (⟨"prod", "web"⟩ : ObjectKey).SlashFree ∧
    sourceArchiveKey "" "dev" "web" "prod/web/1.tar.gz" ≠ sourceArchiveKey "" "prod" "web" "1" ∧
    Text.startsWith "/" (sourceArchiveKey "//" "dev" "web" "/1") = false ∧
    sourceArchiveKey "/sources//" "dev" "web" "1" = sourceArchiveKey "sources" "dev" "web" "1" ∧
    (Sample.snapshotAt "registry:5000" "1").SharesStorage
      { Sample.snapshotAt "registry:5000" "1" with key := ⟨"prod", "web"⟩ } ∧
    (Sample.snapshotAt "registry:5000" "1").target.job.options "context" ≠
      ({ Sample.snapshotAt "registry:5000" "1" with key := ⟨"prod", "web"⟩ } :
      Snapshot).target.job.options
        "context" := by
  obtain ⟨hinj, hslash, hsurrounded, hcontext⟩ := Naming.archives_apart
  have hdev : (⟨"dev", "web"⟩ : ObjectKey).SlashFree := by decide
  have hprod : (⟨"prod", "web"⟩ : ObjectKey).SlashFree := by decide
  have hkeys : (⟨"dev", "web"⟩ : ObjectKey) ≠ ⟨"prod", "web"⟩ := by decide
  have hshares : (Sample.snapshotAt "registry:5000" "1").SharesStorage
      { Sample.snapshotAt "registry:5000" "1" with key := ⟨"prod", "web"⟩ } := ⟨rfl, rfl, rfl⟩
  refine ⟨hdev, hprod, fun h => ?_, hslash "//" ⟨"dev", "web"⟩ "/1" hdev (by decide),
    hsurrounded "sources" 1 2 "dev" "web" "1", hshares, fun h => ?_⟩
  · exact hkeys ((hinj "" ⟨"dev", "web"⟩ ⟨"prod", "web"⟩ "prod/web/1.tar.gz" "1" hdev hprod).mp h).1
  · exact hkeys ((hcontext _ _ hshares hdev hprod).mp h).1

end EnvOperator

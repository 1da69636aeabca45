import Cdngine.Store
import Mathlib.Data.List.Infix

/-!
# The Storage Layout

The normalization of one-bucket and multi-bucket storage layouts into one target for each
storage role, and the object keys that the stores build on a target. A layout is accepted
when its four targets differ; the stores keep an object under the prefix of their target and
a slash.

Two roles are apart when no path lies under both of their prefixes. `Isolated` says so of
every pair of roles, and that the objects of two roles never have one address. The layout
check compares whole targets, so that a prefix inside another one passes it.

## Main results

* `checkTargets_ok_iff`: the check accepts targets that are pairwise different.
* `regions_meet_iff`: two prefixes have a path in common exactly when one of them is the other,
  or continues it after a slash.
* `layout_isolated_iff`: the roles of an accepted layout are isolated exactly when no prefix is
  nested in another one of its bucket.
-/

namespace Cdngine

/-! ### Normalization -/

inductive StorageRole
  | ingest
  | source
  | derived
  | exports
  deriving DecidableEq, Repr

def StorageRole.text : StorageRole → String
  | ingest => "ingest"
  | source => "source"
  | derived => "derived"
  | exports => "exports"

def storageRoles : List StorageRole := [.ingest, .source, .derived, .exports]

theorem mem_storageRoles (role : StorageRole) : role ∈ storageRoles := by
  cases role <;> decide

inductive StorageLayoutInput
  | oneBucket (bucket : String) (prefixes : StorageRole → String)
  | multiBucket (buckets : StorageRole → String) (prefixes : StorageRole → Option String)

structure NormalizedStorageRoleTarget where
  role : StorageRole
  bucket : String
  keyPrefix : String
  targetKey : String
  deriving DecidableEq, Repr

/-- The message of a `StorageTopologyError`. -/
structure StorageTopologyError where
  message : String
  deriving DecidableEq, Repr

/-- A path without the slashes at its ends. -/
def stripSlashes (s : String) : String :=
  String.ofList (((s.toList.dropWhile (· == '/')).reverse.dropWhile (· == '/')).reverse)

def normalizePrefix (keyPrefix : Option String) : Except StorageTopologyError String :=
  let trimmed := stripSlashes (trim (keyPrefix.getD ""))
  if trimmed.length = 0 then
    .error ⟨"Storage role prefixes must be non-empty after normalization."⟩
  else .ok trimmed

def normalizeBucket (bucket : String) : Except StorageTopologyError String :=
  let trimmed := trim bucket
  if trimmed.length = 0 then .error ⟨"Storage role buckets must be non-empty."⟩ else .ok trimmed

def normalizeRoleTarget (role : StorageRole) (bucket keyPrefix : String) :
    Except StorageTopologyError NormalizedStorageRoleTarget := do
  let normalizedBucket ← normalizeBucket bucket
  let normalizedPrefix ← normalizePrefix (some keyPrefix)
  return {
    role
    bucket := normalizedBucket
    keyPrefix := normalizedPrefix
    targetKey := normalizedBucket ++ "/" ++ normalizedPrefix }

namespace StorageLayoutInput

/-- The bucket that a layout names for a role. -/
def bucketOf : StorageLayoutInput → StorageRole → String
  | oneBucket bucket _, _ => bucket
  | multiBucket buckets _, role => buckets role

/-- The prefix that a layout names for a role, by default the name of the role. -/
def prefixOf : StorageLayoutInput → StorageRole → String
  | oneBucket _ prefixes, role => prefixes role
  | multiBucket _ prefixes, role => (prefixes role).getD role.text

end StorageLayoutInput

/-- The record of the normalized targets. -/
structure NormalizedStorageLayout where
  ingest : NormalizedStorageRoleTarget
  source : NormalizedStorageRoleTarget
  derived : NormalizedStorageRoleTarget
  exports : NormalizedStorageRoleTarget
  deriving DecidableEq, Repr

def NormalizedStorageLayout.target (layout : NormalizedStorageLayout) :
    StorageRole → NormalizedStorageRoleTarget
  | .ingest => layout.ingest
  | .source => layout.source
  | .derived => layout.derived
  | .exports => layout.exports

/-- The loop over the roles, with the targets seen so far and their roles. -/
def checkTargets (target : StorageRole → NormalizedStorageRoleTarget) :
    List (String × StorageRole) → List StorageRole → Except StorageTopologyError Unit
  | _, [] => .ok ()
  | seenTargets, role :: roles =>
      match seenTargets.lookup (target role).targetKey with
      | some priorRole =>
          .error ⟨"Storage roles " ++ quoted priorRole.text ++ " and " ++ quoted role.text ++
            " resolve to the same target " ++ quoted (target role).targetKey ++ "."⟩
      | none => checkTargets target (((target role).targetKey, role) :: seenTargets) roles

def normalizeStorageLayout (input : StorageLayoutInput) :
    Except StorageTopologyError NormalizedStorageLayout := do
  let ingest ← normalizeRoleTarget .ingest (input.bucketOf .ingest) (input.prefixOf .ingest)
  let source ← normalizeRoleTarget .source (input.bucketOf .source) (input.prefixOf .source)
  let derived ← normalizeRoleTarget .derived (input.bucketOf .derived) (input.prefixOf .derived)
  let exports ← normalizeRoleTarget .exports (input.bucketOf .exports) (input.prefixOf .exports)
  let normalized : NormalizedStorageLayout := { ingest, source, derived, exports }
  checkTargets normalized.target [] storageRoles
  return normalized

/-! ### The keys of the stores -/

/-- A relative object key, or the message of the error. -/
def normalizeRelativeObjectKey (objectKey : String) : Except String String :=
  let normalized := stripSlashes (trim objectKey)
  if normalized.length = 0 then .error "Object keys must be non-empty after normalization."
  else .ok normalized

def buildQualifiedObjectKey (target : NormalizedStorageRoleTarget) (objectKey : String) :
    Except String String := do
  let relative ← normalizeRelativeObjectKey objectKey
  return target.keyPrefix ++ "/" ++ relative

/-- The bucket and the key under which a store on a target keeps an object. -/
def NormalizedStorageRoleTarget.address (target : NormalizedStorageRoleTarget)
    (objectKey : String) :
    Except String (String × String) := do
  let key ← buildQualifiedObjectKey target objectKey
  return (target.bucket, key)

/-! ### Regions of paths -/

/-- A path **lies under** a prefix. -/
def LiesUnder (keyPrefix path : String) : Prop := keyPrefix.toList ++ ['/'] <+: path.toList

/-- A prefix **is nested** in another one: it continues it after a slash. -/
def NestedIn (inner outer : String) : Prop := LiesUnder outer inner

instance (keyPrefix path : String) : Decidable (LiesUnder keyPrefix path) :=
  inferInstanceAs (Decidable (_ <+: _))

instance (inner outer : String) : Decidable (NestedIn inner outer) :=
  inferInstanceAs (Decidable (LiesUnder outer inner))

/-- Of two prefixes with a slash, one extends the other only if it is the same or nested. -/
theorem slash_prefix_slash_iff {a b : String} :
    a.toList ++ ['/'] <+: b.toList ++ ['/'] ↔ a = b ∨ NestedIn b a := by
  rw [List.prefix_concat_iff]
  constructor
  · rintro (heq | hnested)
    · exact Or.inl (String.toList_inj.mp (List.append_cancel_right heq))
    · exact Or.inr hnested
  · rintro (rfl | hnested)
    · exact Or.inl rfl
    · exact Or.inr hnested

/-- **Two prefixes have a path in common exactly when they are equal or nested.** -/
theorem regions_meet_iff {a b : String} :
    (∃ path, LiesUnder a path ∧ LiesUnder b path) ↔ a = b ∨ NestedIn a b ∨ NestedIn b a := by
  constructor
  · rintro ⟨path, ha, hb⟩
    rcases List.prefix_or_prefix_of_prefix ha hb with hab | hba
    · rcases slash_prefix_slash_iff.mp hab with heq | hnested
      · exact Or.inl heq
      · exact Or.inr (Or.inr hnested)
    · rcases slash_prefix_slash_iff.mp hba with heq | hnested
      · exact Or.inl heq.symm
      · exact Or.inr (Or.inl hnested)
  · have hself : ∀ c : String, LiesUnder c (c ++ "/") := fun c => by
      rw [LiesUnder, String.toList_append]
      exact List.prefix_refl _
    have hinner :
      ∀ {inner outer : String}, NestedIn inner outer → LiesUnder outer (inner ++ "/") := by
      intro inner outer hnested
      rw [LiesUnder, String.toList_append]
      exact hnested.trans (List.prefix_append _ _)
    rintro (rfl | hnested | hnested)
    · exact ⟨a ++ "/", hself a, hself a⟩
    · exact ⟨a ++ "/", hself a, hinner hnested⟩
    · exact ⟨b ++ "/", hinner hnested, hself b⟩

/-- The address of an object lies under the prefix of its target. -/
theorem address_liesUnder {target : NormalizedStorageRoleTarget} {objectKey : String}
    {location : String × String} (h : target.address objectKey = .ok location) :
    location.1 = target.bucket ∧ LiesUnder target.keyPrefix location.2 := by
  obtain ⟨key, hkey, hlocation⟩ := bind_eq_ok.mp h
  obtain ⟨relative, -, hqualified⟩ := bind_eq_ok.mp hkey
  obtain rfl := Except.ok.inj hlocation
  obtain rfl := Except.ok.inj hqualified
  refine ⟨rfl, ?_⟩
  simp only [LiesUnder, String.toList_append]
  exact List.prefix_append _ _

/-! ### The check of a layout -/

/-- **The check accepts pairwise different targets** that have not been seen. -/
theorem checkTargets_ok_iff {target : StorageRole → NormalizedStorageRoleTarget}
    {seenTargets : List (String × StorageRole)} {roles : List StorageRole} :
    checkTargets target seenTargets roles = .ok () ↔
      (∀ role ∈ roles, seenTargets.lookup (target role).targetKey = none) ∧
        (roles.map fun role => (target role).targetKey).Nodup := by
  induction roles generalizing seenTargets with
  | nil => simp [checkTargets]
  | cons role roles ih =>
      cases hseen : seenTargets.lookup (target role).targetKey with
      | some priorRole =>
          simp only [checkTargets, hseen, reduceCtorEq, false_iff]
          rintro ⟨hnew, -⟩
          rw [hnew role List.mem_cons_self] at hseen
          cases hseen
      | none =>
          simp only [checkTargets, hseen, ih, List.lookup_cons, List.forall_mem_cons, true_and,
            List.map_cons, List.nodup_cons, List.mem_map, not_exists, not_and]
          constructor
          · rintro ⟨hrest, hnodup⟩
            refine ⟨fun r hr => ?_, fun r hr heq => ?_, hnodup⟩
            · have hr' := hrest r hr
              split at hr'
              · cases hr'
              · exact hr'
            · have hr' := hrest r hr
              rw [heq, beq_self_eq_true] at hr'
              cases hr'
          · rintro ⟨hrest, hnew, hnodup⟩
            refine ⟨fun r hr => ?_, hnodup⟩
            have hne : ((target r).targetKey == (target role).targetKey) = false :=
              beq_eq_false_iff_ne.mpr (hnew r hr)
            rw [hne]
            exact hrest r hr

/-- A normalized target, read off the layout. -/
structure NormalizedStorageRoleTarget.Of (target : NormalizedStorageRoleTarget)
    (bucket keyPrefix : String) : Prop where
  bucket : target.bucket = trim bucket
  keyPrefix : target.keyPrefix = stripSlashes (trim keyPrefix)
  targetKey : target.targetKey = target.bucket ++ "/" ++ target.keyPrefix

theorem normalizeRoleTarget_ok {role : StorageRole} {bucket keyPrefix : String}
    {target : NormalizedStorageRoleTarget}
    (h : normalizeRoleTarget role bucket keyPrefix = .ok target) : target.Of bucket keyPrefix := by
  obtain ⟨normalizedBucket, hbucket, h⟩ := bind_eq_ok.mp h
  obtain ⟨normalizedPrefix, hprefix, h⟩ := bind_eq_ok.mp h
  obtain rfl := Except.ok.inj h
  simp only [normalizeBucket] at hbucket
  split at hbucket
  · cases hbucket
  simp only [normalizePrefix, Option.getD_some] at hprefix
  split at hprefix
  · cases hprefix
  exact ⟨(Except.ok.inj hbucket).symm, (Except.ok.inj hprefix).symm, rfl⟩

/-- Neither the bucket nor the prefix of a normalized target is empty. -/
theorem normalizeRoleTarget_ne_empty {role : StorageRole} {bucket keyPrefix : String}
    {target : NormalizedStorageRoleTarget}
    (h : normalizeRoleTarget role bucket keyPrefix = .ok target) :
    target.bucket ≠ "" ∧ target.keyPrefix ≠ "" := by
  obtain ⟨normalizedBucket, hbucket, h⟩ := bind_eq_ok.mp h
  obtain ⟨normalizedPrefix, hprefix, h⟩ := bind_eq_ok.mp h
  obtain rfl := Except.ok.inj h
  constructor
  · rintro rfl
    simp only [normalizeBucket] at hbucket
    split at hbucket
    · cases hbucket
    · rename_i hlength
      rw [Except.ok.inj hbucket] at hlength
      exact hlength rfl
  · rintro rfl
    simp only [normalizePrefix] at hprefix
    split at hprefix
    · cases hprefix
    · rename_i hlength
      rw [Except.ok.inj hprefix] at hlength
      exact hlength rfl

/-- The targets of an accepted layout are normalized. -/
theorem normalizeStorageLayout_targets {input : StorageLayoutInput}
    {layout : NormalizedStorageLayout} (h : normalizeStorageLayout input = .ok layout) :
    ∀ role, normalizeRoleTarget role (input.bucketOf role) (input.prefixOf role) =
      .ok (layout.target role) := by
  obtain ⟨ingest, hingest, h⟩ := bind_eq_ok.mp h
  obtain ⟨source, hsource, h⟩ := bind_eq_ok.mp h
  obtain ⟨derived, hderived, h⟩ := bind_eq_ok.mp h
  obtain ⟨exports, hexports, h⟩ := bind_eq_ok.mp h
  obtain ⟨_, -, h⟩ := bind_eq_ok.mp h
  obtain rfl := Except.ok.inj h
  intro role
  cases role with
  | ingest => exact hingest
  | source => exact hsource
  | derived => exact hderived
  | exports => exact hexports

/-- **The targets of an accepted layout** are those that it names, and they differ. -/
theorem normalizeStorageLayout_ok {input : StorageLayoutInput} {layout : NormalizedStorageLayout}
    (h : normalizeStorageLayout input = .ok layout) :
    (∀ role, (layout.target role).Of (input.bucketOf role) (input.prefixOf role)) ∧
      ∀ r s, r ≠ s → (layout.target r).targetKey ≠ (layout.target s).targetKey := by
  refine ⟨fun role => normalizeRoleTarget_ok (normalizeStorageLayout_targets h role), ?_⟩
  obtain ⟨ingest, -, h⟩ := bind_eq_ok.mp h
  obtain ⟨source, -, h⟩ := bind_eq_ok.mp h
  obtain ⟨derived, -, h⟩ := bind_eq_ok.mp h
  obtain ⟨exports, -, h⟩ := bind_eq_ok.mp h
  obtain ⟨_, hcheck, h⟩ := bind_eq_ok.mp h
  obtain rfl := Except.ok.inj h
  intro r s hne heq
  exact hne (List.inj_on_of_nodup_map (checkTargets_ok_iff.mp hcheck).2 (mem_storageRoles r)
    (mem_storageRoles s) heq)

/-! ### Isolation of the roles -/

/-- **The roles of a layout are isolated**: the objects of two roles never have one address,
and in one bucket no path lies under the prefixes of both, so that what is listed, read,
overwritten or deleted through one role is never an object of the other. -/
structure NormalizedStorageLayout.Isolated (layout : NormalizedStorageLayout) : Prop where
  addresses : ∀ r s, r ≠ s → ∀ k l location location',
    (layout.target r).address k = .ok location → (layout.target s).address l = .ok location' →
      location ≠ location'
  regions : ∀ r s, r ≠ s → (layout.target r).bucket = (layout.target s).bucket →
    ∀ path, LiesUnder (layout.target r).keyPrefix path →
      ¬ LiesUnder (layout.target s).keyPrefix path

/-- A layout **nests** a role in another one: in one bucket, the prefix of one continues that of
the other after a slash. White space and slashes at the ends do not count. -/
def StorageLayoutInput.Nests (input : StorageLayoutInput) (inner outer : StorageRole) : Prop :=
  trim (input.bucketOf inner) = trim (input.bucketOf outer) ∧
    NestedIn (stripSlashes (trim (input.prefixOf inner)))
      (stripSlashes (trim (input.prefixOf outer)))

instance (input : StorageLayoutInput) (inner outer : StorageRole) :
    Decidable (input.Nests inner outer) :=
  inferInstanceAs (Decidable (_ ∧ _))

/-- **The roles of an accepted layout are isolated exactly when it nests none of them.** -/
theorem layout_isolated_iff {input : StorageLayoutInput} {layout : NormalizedStorageLayout}
    (h : normalizeStorageLayout input = .ok layout) :
    layout.Isolated ↔ ∀ inner outer, inner ≠ outer → ¬ input.Nests inner outer := by
  obtain ⟨hof, hdistinct⟩ := normalizeStorageLayout_ok h
  have hnests : ∀ r s, input.Nests r s ↔ (layout.target r).bucket = (layout.target s).bucket ∧
      NestedIn (layout.target r).keyPrefix (layout.target s).keyPrefix := fun r s => by
    rw [StorageLayoutInput.Nests, (hof r).bucket, (hof s).bucket, (hof r).keyPrefix,
      (hof s).keyPrefix]
  constructor
  · intro hisolated inner outer hne hnested
    obtain ⟨hbucket, hnested⟩ := (hnests inner outer).mp hnested
    obtain ⟨path, hinner, houter⟩ := regions_meet_iff.mpr (Or.inr (Or.inl hnested))
    exact hisolated.regions inner outer hne hbucket path hinner houter
  · intro hflat
    have hregions : ∀ r s, r ≠ s → (layout.target r).bucket = (layout.target s).bucket →
        ∀ path, LiesUnder (layout.target r).keyPrefix path →
          ¬ LiesUnder (layout.target s).keyPrefix path := by
      intro r s hne hbucket path hr hs
      rcases regions_meet_iff.mp ⟨path, hr, hs⟩ with heq | hnested | hnested
      · -- equal prefixes in one bucket are one target, which the check refuses
        refine hdistinct r s hne ?_
        rw [(hof r).targetKey, (hof s).targetKey, hbucket, heq]
      · exact hflat r s hne ((hnests r s).mpr ⟨hbucket, hnested⟩)
      · exact hflat s r hne.symm ((hnests s r).mpr ⟨hbucket.symm, hnested⟩)
    refine ⟨?_, hregions⟩
    rintro r s hne k l location location' hr hs rfl
    obtain ⟨hbucket, hunder⟩ := address_liesUnder hr
    obtain ⟨hbucket', hunder'⟩ := address_liesUnder hs
    exact hregions r s hne (hbucket.symm.trans hbucket') location.2 hunder hunder'

/-! ### Layouts of one bucket -/

/-- The documented layout of one bucket. -/
def sampleLayout : StorageLayoutInput := .oneBucket "cdngine-data" fun
  | .ingest => "ingest/"
  | .source => "source/"
  | .derived => "derived/"
  | .exports => "exports/"

/-- Its roles are isolated. -/
theorem sampleLayout_isolated :
    ∃ layout, normalizeStorageLayout sampleLayout = .ok layout ∧ layout.Isolated := by
  have h : normalizeStorageLayout sampleLayout = .ok _ := rfl
  refine ⟨_, h, (layout_isolated_iff h).mpr ?_⟩
  intro inner outer
  cases inner <;> cases outer <;> decide +kernel

/-- A layout with the canonical source inside the prefix of the staging area. -/
def nestedLayout : StorageLayoutInput := .oneBucket "cdngine-data" fun
  | .ingest => "cdngine"
  | .source => "cdngine/source"
  | .derived => "derived"
  | .exports => "exports"

/-- Its targets. -/
def nestedTargets : NormalizedStorageLayout where
  ingest := ⟨.ingest, "cdngine-data", "cdngine", "cdngine-data/cdngine"⟩
  source := ⟨.source, "cdngine-data", "cdngine/source", "cdngine-data/cdngine/source"⟩
  derived := ⟨.derived, "cdngine-data", "derived", "cdngine-data/derived"⟩
  exports := ⟨.exports, "cdngine-data", "exports", "cdngine-data/exports"⟩

/-- **An accepted layout with one address for two objects**: a staged object overwrites the
canonical source of a version. -/
theorem nestedLayout_not_isolated :
    ∃ layout, normalizeStorageLayout nestedLayout = .ok layout ∧ ¬ layout.Isolated := by
  refine ⟨nestedTargets, by decide +kernel, fun hisolated => ?_⟩
  have hstaged : nestedTargets.ingest.address "source/version-1/hero.png" =
      .ok ("cdngine-data", "cdngine/source/version-1/hero.png") := by decide +kernel
  have hcanonical : nestedTargets.source.address "version-1/hero.png" =
      .ok ("cdngine-data", "cdngine/source/version-1/hero.png") := by decide +kernel
  exact hisolated.addresses .ingest .source (by decide) _ _ _ _ hstaged hcanonical rfl

end Cdngine

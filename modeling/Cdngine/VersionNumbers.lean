import Cdngine.AssetScope

/-!
# Version Numbers

An issuance numbers its version by reading the latest number of the asset and inserting the
next one, with a session for the version.

## Main results

* `issueTransaction_rows`: the rows that an issuance adds.
* `Db.Numbered.issue`, `Db.OneSession.issue`: an issuance keeps the versions of every asset
  numbered from one without gaps, each with exactly one session.
-/

open Relational

namespace Cdngine

/-! ### Numbered assets -/

/-- The numbers of the versions of an asset. -/
def Db.versionNumbers (db : Db) (assetId : String) : List Nat :=
  (db.assetVersions.rows.filter fun r => r.assetId == assetId).map (·.versionNumber)

/-- **The versions of each asset are numbered** from one, without gaps or duplicates. -/
def Db.Numbered (db : Db) : Prop :=
  ∀ assetId, ∃ n, (db.versionNumbers assetId).Perm (List.range' 1 n)

/-- **Each version has exactly one upload session.** -/
def Db.OneSession (db : Db) : Prop :=
  ∀ v ∈ db.assetVersions.rows, ∃! s, s ∈ db.uploadSessions.rows ∧ s.assetVersionId = v.id

theorem Db.latestVersionNumber_eq (db : Db) (assetId : String) :
    db.latestVersionNumber assetId = (db.versionNumbers assetId).foldl max 0 := rfl

/-- A maximum is one of what it is taken of. -/
theorem foldl_max_mem (numbers : List Nat) (start : Nat) :
    numbers.foldl max start = start ∨ numbers.foldl max start ∈ numbers := by
  induction numbers generalizing start with
  | nil => exact Or.inl rfl
  | cons m numbers ih =>
      rw [List.foldl_cons]
      rcases ih (max start m) with heq | hmem
      · rw [heq]
        rcases le_total start m with hle | hle
        · rw [max_eq_right hle]
          exact Or.inr List.mem_cons_self
        · exact Or.inl (max_eq_left hle)
      · exact Or.inr (List.mem_cons_of_mem _ hmem)

/-- The latest number of an asset whose versions are numbered `1..n`. -/
theorem foldl_max_of_perm {numbers : List Nat} {n : Nat} (h : numbers.Perm (List.range' 1 n)) :
    numbers.foldl max 0 = n := by
  have hmem : ∀ m, m ∈ numbers ↔ 1 ≤ m ∧ m < 1 + n := fun m => by
    rw [h.mem_iff, List.mem_range'_1]
  have hle : numbers.foldl max 0 ≤ n := by
    rcases foldl_max_mem numbers 0 with heq | hmax
    · omega
    · have := (hmem _).mp hmax
      omega
  have hge : n ≤ numbers.foldl max 0 := by
    rcases Nat.eq_zero_or_pos n with rfl | hpos
    · exact Nat.zero_le _
    · exact le_foldl_max (Or.inl ((hmem n).mpr ⟨hpos, by omega⟩))
  exact le_antisymm hle hge

namespace Db

variable {db db' : Db} {assetId : String}

theorem Numbered.perm (h : db.Numbered) (assetId : String) :
    (db.versionNumbers assetId).Perm (List.range' 1 (db.latestVersionNumber assetId)) := by
  obtain ⟨n, hn⟩ := h assetId
  rw [latestVersionNumber_eq, foldl_max_of_perm hn]
  exact hn

/-- The numbers that the versions of an asset have. -/
theorem Numbered.mem_iff (h : db.Numbered) {number : Nat} :
    (∃ v ∈ db.assetVersions.rows, v.numberKey = (assetId, number)) ↔
      1 ≤ number ∧ number ≤ db.latestVersionNumber assetId := by
  have hmem : number ∈ db.versionNumbers assetId ↔
      1 ≤ number ∧ number < 1 + db.latestVersionNumber assetId := by
    rw [(h.perm assetId).mem_iff, List.mem_range'_1]
  have hrows : number ∈ db.versionNumbers assetId ↔
      ∃ v ∈ db.assetVersions.rows, v.numberKey = (assetId, number) := by
    simp only [versionNumbers, List.mem_map, List.mem_filter, beq_iff_eq, AssetVersion.numberKey,
      Prod.mk.injEq]
    exact ⟨fun ⟨v, ⟨hv, hasset⟩, hnumber⟩ => ⟨v, hv, hasset, hnumber⟩,
      fun ⟨v, hv, hasset, hnumber⟩ => ⟨v, ⟨hv, hasset⟩, hnumber⟩⟩
  rw [← hrows, hmem]
  omega

/-- One more version. -/
theorem versionNumbers_append {v : AssetVersion}
    (hrows : db'.assetVersions.rows = db.assetVersions.rows ++ [v]) (assetId : String) :
    db'.versionNumbers assetId =
      db.versionNumbers assetId ++ if v.assetId = assetId then [v.versionNumber] else [] := by
  simp only [versionNumbers, hrows, List.filter_append, List.map_append]
  congr 1
  by_cases hasset : v.assetId = assetId
  · simp [hasset]
  · simp [hasset]

/-- One more version under the next number of its asset. -/
theorem Numbered.append (h : db.Numbered) {v : AssetVersion}
    (hrows : db'.assetVersions.rows = db.assetVersions.rows ++ [v])
    (hnumber : v.versionNumber = db.latestVersionNumber v.assetId + 1) : db'.Numbered := by
  intro assetId
  rw [versionNumbers_append hrows]
  by_cases hasset : v.assetId = assetId
  · subst hasset
    refine ⟨db.latestVersionNumber v.assetId + 1, ?_⟩
    rw [if_pos rfl, hnumber, List.range'_1_concat, Nat.add_comm 1]
    exact (h.perm v.assetId).append_right _
  · refine ⟨db.latestVersionNumber assetId, ?_⟩
    rw [if_neg hasset, List.append_nil]
    exact h.perm assetId

/-- The latest number of an asset after one more version. -/
theorem latestVersionNumber_le_append {v : AssetVersion}
    (hrows : db'.assetVersions.rows = db.assetVersions.rows ++ [v]) (assetId : String) :
    db.latestVersionNumber assetId ≤ db'.latestVersionNumber assetId := by
  rw [latestVersionNumber_eq, latestVersionNumber_eq, versionNumbers_append hrows,
    List.foldl_append]
  exact le_foldl_max (Or.inr le_rfl)

/-- One more version with its session. -/
theorem OneSession.append (h : db.OneSession) {v : AssetVersion} {s : UploadSession}
    (hversions : db'.assetVersions.rows = db.assetVersions.rows ++ [v])
    (hsessions : db'.uploadSessions.rows = db.uploadSessions.rows ++ [s])
    (hversion : s.assetVersionId = v.id) : db'.OneSession := by
  have hunique : ∀ {s₁ s₂ : UploadSession}, s₁ ∈ db'.uploadSessions.rows →
      s₂ ∈ db'.uploadSessions.rows → s₁.assetVersionId = s₂.assetVersionId → s₁ = s₂ := by
    intro s₁ s₂ h₁ h₂ heq
    exact Table.eq_of_clash h₁ h₂ (by simp [clash, heq])
  have hexists : ∀ w ∈ db'.assetVersions.rows,
      ∃ s' ∈ db'.uploadSessions.rows, s'.assetVersionId = w.id := by
    intro w hw
    rw [hsessions]
    rw [hversions] at hw
    rcases List.mem_append.mp hw with hold | hnew
    · obtain ⟨s', ⟨hs', hid⟩, -⟩ := h w hold
      exact ⟨s', List.mem_append_left _ hs', hid⟩
    · obtain rfl := List.mem_singleton.mp hnew
      exact ⟨s, List.mem_append_right _ List.mem_cons_self, hversion⟩
  intro w hw
  obtain ⟨s', hs', hid⟩ := hexists w hw
  exact ⟨s', ⟨hs', hid⟩, fun s'' ⟨hs'', hid''⟩ => hunique hs'' hs' (hid''.trans hid.symm)⟩

end Db

/-! ### The rows of an issuance -/

/-- **The rows that an issuance adds**: an asset at most, a version under the next number of
its asset, the session of the version and the idempotency record. -/
structure Db.Gains (input : RegistryIssueUploadSessionInput) (ids : IssueIds) (now : Instant)
    (assetId : String) (db db' : Db) : Prop where
  assets : db'.assets.rows = db.assets.rows ∨
    ∃ a, db'.assets.rows = db.assets.rows ++ [a] ∧ a.id = ids.assetId ∧
      a.lookupKey = ids.lookupKey ∧ a.currentCanonicalVersionId = none
  asset : ∃ a ∈ db'.assets.rows, a.id = assetId
  assetVersions : db'.assetVersions.rows =
    db.assetVersions.rows ++ [issuedVersion input ids assetId (db.latestVersionNumber assetId + 1)]
  uploadSessions : db'.uploadSessions.rows = db.uploadSessions.rows ++ [issuedSession input ids now]
  idempotencyRecords : db'.idempotencyRecords.rows =
    db.idempotencyRecords.rows ++ [issuedRecord input ids assetId now]
  serviceNamespaces : db'.serviceNamespaces = db.serviceNamespaces
  tenantScopes : db'.tenantScopes = db.tenantScopes

theorem issueTransaction_rows {input : RegistryIssueUploadSessionInput} {ids : IssueIds}
    {now : Instant} {db db' : Db} {issued : RegistryIssuedUploadSession}
    (h : issueTransaction input ids now db = .ok (issued, db')) :
    db.Gains input ids now issued.assetId db' ∧ issued.versionId = ids.versionId ∧
      issued.uploadSessionId = ids.uploadSessionId := by
  unfold issueTransaction at h
  split at h
  · obtain ⟨⟨asset, db₁⟩, hasset, h⟩ := bind_eq_ok.mp h
    obtain ⟨db₂, h₂, h⟩ := bind_eq_ok.mp h
    obtain ⟨db₃, h₃, h⟩ := bind_eq_ok.mp h
    obtain ⟨db₄, h₄, h⟩ := bind_eq_ok.mp h
    obtain ⟨rfl, rfl⟩ := Prod.mk.inj (Except.ok.inj h)
    obtain ⟨t₂, ht₂, rfl⟩ := write_eq_ok.mp h₂
    obtain ⟨t₃, ht₃, rfl⟩ := write_eq_ok.mp h₃
    obtain ⟨t₄, ht₄, rfl⟩ := write_eq_ok.mp h₄
    have hversions := (Table.insert_eq_ok_iff.mp ht₂).2
    have hsessions := (Table.insert_eq_ok_iff.mp ht₃).2
    have hrecords := (Table.insert_eq_ok_iff.mp ht₄).2
    have hrow := (Db.asset?_eq_some_iff.mp (issueAsset_scoped hasset).1).1
    unfold issueAsset at hasset
    split at hasset
    · obtain ⟨db₁', h₁, hret⟩ := bind_eq_ok.mp hasset
      obtain ⟨rfl, rfl⟩ := Prod.mk.inj (Except.ok.inj hret)
      obtain ⟨t₁, ht₁, rfl⟩ := write_eq_ok.mp h₁
      have hassets := (Table.insert_eq_ok_iff.mp ht₁).2
      exact ⟨⟨Or.inr ⟨_, hassets, rfl, rfl, rfl⟩, ⟨_, hrow, rfl⟩, hversions, hsessions,
        hrecords, rfl, rfl⟩, rfl, rfl⟩
    · obtain ⟨found, -, hret⟩ := bind_eq_ok.mp hasset
      obtain ⟨rfl, rfl⟩ := Prod.mk.inj (Except.ok.inj hret)
      exact ⟨⟨Or.inl rfl, ⟨_, hrow, rfl⟩, hversions, hsessions, hrecords, rfl, rfl⟩, rfl, rfl⟩
  · cases h

section Gains

variable {input : RegistryIssueUploadSessionInput} {ids : IssueIds} {now : Instant}
  {assetId : String} {db db' : Db}

/-- An issuance keeps the versions numbered. -/
theorem Db.Numbered.issue (h : db.Numbered) (hgains : db.Gains input ids now assetId db') :
    db'.Numbered := h.append hgains.assetVersions rfl

/-- An issuance gives each version one session. -/
theorem Db.OneSession.issue (h : db.OneSession) (hgains : db.Gains input ids now assetId db') :
    db'.OneSession := h.append hgains.assetVersions hgains.uploadSessions rfl

end Gains

end Cdngine

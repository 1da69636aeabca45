import Cdngine.PosixPaths
import Cdngine.S3Stores
import Cdngine.XetSourceRepository

/-!
# Source Migration

The script that audits version records for legacy rows and snapshots the eligible ones anew. Two
reports classify the same records, the inventory and the plan; in apply mode the operations of the
plan are restored and snapshotted one after the other, and the plan is updated in place. The steps
of a row that leave the script (a directory, a restore, a snapshot, the removal of what was
restored) are parameters, so that each may fail in any pattern.

## Main results

* `foldl_inventoryStep`: what the inventory keeps and counts.
* `applyOperation_cases`, `applyOperations_accounts`: what the apply loop does to one operation, and
  the law that it keeps over a plan.
* `migration_accounts`: the law of the reports and of the command.
-/

open PosixPaths

namespace Cdngine

/-! ### Values of a record -/

mutual

/-- `String(value)`. -/
def JsValue.toText (rt : Runtime) : JsValue → String
  | .undefined => "undefined"
  | .null => "null"
  | .boolean b => if b then "true" else "false"
  | .number n => n.toText rt
  | .bigint n => toString n
  | .string s => s
  | .array items => String.intercalate "," (JsValue.itemTexts rt items)
  | .object _ => "[object Object]"

/-- The texts of the items of an array, of which an absent one is empty. -/
def JsValue.itemTexts (rt : Runtime) : List JsValue → List String
  | [] => []
  | .undefined :: items => "" :: JsValue.itemTexts rt items
  | .null :: items => "" :: JsValue.itemTexts rt items
  | item :: items => item.toText rt :: JsValue.itemTexts rt items

end

/-- `value ?? fallback`. -/
def JsValue.orElse (fallback : JsValue) : JsValue → JsValue
  | .undefined => fallback
  | .null => fallback
  | value => value

/-- A property of an object; any other value has none. -/
def JsValue.property (key : String) : JsValue → JsValue
  | .object entries => (entries.lookup key).getD .undefined
  | _ => .undefined

def JsValue.isPlainObject : JsValue → Bool
  | .object _ => true
  | _ => false

/-- The platform of the script: what the rest of the code takes from it, and `Number(value)`. -/
structure MigrationRuntime extends Runtime where
  toNumber : JsValue → JsNumber

variable (rt : MigrationRuntime)

def readOptionalString (value : JsValue) : Option String :=
  match value with
  | .undefined => none
  | .null => none
  | value => present (some (trim (value.toText rt.toRuntime)))

def readOptionalBigIntString (value : JsValue) : Option String :=
  match value with
  | .undefined => none
  | .null => none
  | .string "" => none
  | value => some (value.toText rt.toRuntime)

def readRequiredString (value : JsValue) (fieldName : String) : Except String String :=
  match readOptionalString rt value with
  | some normalized => .ok normalized
  | none => .error ("Missing required migration record field " ++ quoted fieldName ++ ".")

/-- The two required texts of each object of an array: `normalizeChecksumList` and
`normalizeReconstructionHandles`. -/
def normalizePairs (fieldName first second : String) (value : JsValue) :
    Except String (List (String × String)) :=
  match value with
  | .array items =>
      (items.filter JsValue.isPlainObject).mapM fun item => do
        let a ← readRequiredString rt (item.property first) (fieldName ++ "." ++ first)
        let b ← readRequiredString rt (item.property second) (fieldName ++ "." ++ second)
        return (a, b)
  | _ => .ok []

def normalizeChecksumList (value : JsValue) : Except String (List ObjectChecksum) :=
  (normalizePairs rt "canonicalDigestSet" "algorithm" "value" value).map
    (List.map fun pair => ⟨pair.1, pair.2⟩)

def normalizeReconstructionHandles (value : JsValue) : Except String (List (String × String)) :=
  normalizePairs rt "sourceReconstructionHandles" "kind" "value" value

def normalizeSubstrateHints (value : JsValue) : Option (List (String × String)) :=
  match value with
  | .object entries =>
      some (entries.filterMap fun entry =>
        (readOptionalString rt entry.2).map fun text => (entry.1, text))
  | _ => none

/-! ### Records -/

/-- A normalized version record. -/
structure MigrationRecord where
  assetId : String
  versionId : String
  versionNumber : JsNumber
  serviceNamespaceId : String
  tenantScopeId : Option String
  lifecycleState : String
  sourceFilename : String
  repositoryEngine : Option String
  canonicalSourceId : Option String
  canonicalSnapshotId : Option String
  canonicalLogicalPath : Option String
  canonicalDigestSet : List ObjectChecksum
  canonicalLogicalByteLength : Option String
  canonicalStoredByteLength : Option String
  sourceReconstructionHandles : List (String × String)
  sourceSubstrateHints : Option (List (String × String))
  isCurrentCanonicalVersion : Bool
  deriving DecidableEq, Repr

/-- The asset of a record, when it is an object. -/
def recordAsset (record : JsValue) : JsValue :=
  if (record.property "asset").isPlainObject then record.property "asset" else .undefined

/-- `value === true`. -/
def JsValue.isTrue : JsValue → Bool
  | .boolean b => b
  | _ => false

/-- `value === text`. -/
def JsValue.isText (text : String) : JsValue → Bool
  | .string s => s == text
  | _ => false

def normalizeMigrationRecord (record : JsValue) : Except String MigrationRecord :=
  if !record.isPlainObject then
    .error "Migration inventory input records must be objects."
  else do
    let asset := recordAsset record
    let assetId ← readRequiredString rt
      ((record.property "assetId").orElse (asset.property "id")) "assetId"
    let versionId ← readRequiredString rt
      ((record.property "versionId").orElse (record.property "id")) "versionId"
    let serviceNamespaceId ← readRequiredString rt
      ((record.property "serviceNamespaceId").orElse (asset.property "serviceNamespaceId"))
      "serviceNamespaceId"
    let lifecycleState ← readRequiredString rt (record.property "lifecycleState") "lifecycleState"
    let sourceFilename ← readRequiredString rt (record.property "sourceFilename") "sourceFilename"
    let canonicalDigestSet ← normalizeChecksumList rt (record.property "canonicalDigestSet")
    let sourceReconstructionHandles ←
      normalizeReconstructionHandles rt (record.property "sourceReconstructionHandles")
    return {
      assetId
      versionId
      versionNumber :=
        rt.toNumber ((record.property "versionNumber").orElse (.number (.ofNat 0)))
      serviceNamespaceId
      tenantScopeId := readOptionalString rt
        ((record.property "tenantScopeId").orElse (asset.property "tenantScopeId"))
      lifecycleState
      sourceFilename
      repositoryEngine := readOptionalString rt (record.property "repositoryEngine")
      canonicalSourceId := readOptionalString rt (record.property "canonicalSourceId")
      canonicalSnapshotId := readOptionalString rt (record.property "canonicalSnapshotId")
      canonicalLogicalPath := readOptionalString rt (record.property "canonicalLogicalPath")
      canonicalDigestSet
      canonicalLogicalByteLength :=
        readOptionalBigIntString rt (record.property "canonicalLogicalByteLength")
      canonicalStoredByteLength :=
        readOptionalBigIntString rt (record.property "canonicalStoredByteLength")
      sourceReconstructionHandles
      sourceSubstrateHints := normalizeSubstrateHints rt (record.property "sourceSubstrateHints")
      isCurrentCanonicalVersion :=
        (record.property "isCurrentCanonicalVersion").isTrue ||
          (asset.property "currentCanonicalVersionId").isText versionId }

/-! ### Classification -/

inductive InventoryStatus
  | legacyKopia
  | missingEngine
  | xet
  | otherEngine
  deriving DecidableEq, Repr

inductive RecanonicalizationStatus
  | eligible
  | manualReview
  | notNeeded
  | recanonicalized
  | failed
  deriving DecidableEq, Repr

structure Classification where
  inventoryStatus : InventoryStatus
  recanonicalizationStatus : RecanonicalizationStatus
  reason : String
  deriving DecidableEq, Repr

def hasCanonicalEvidence (record : MigrationRecord) : Bool :=
  record.canonicalSourceId.isSome && record.canonicalSnapshotId.isSome &&
    record.canonicalLogicalPath.isSome

def classifyRecord (record : MigrationRecord) : Classification :=
  if record.repositoryEngine = some "kopia" then
    if hasCanonicalEvidence record then ⟨.legacyKopia, .eligible, "legacy-kopia-row"⟩
    else ⟨.legacyKopia, .manualReview, "legacy-kopia-row-missing-canonical-evidence"⟩
  else if record.repositoryEngine.isNone && (record.canonicalSourceId.isSome ||
      record.canonicalSnapshotId.isSome || record.canonicalLogicalPath.isSome) then
    ⟨.missingEngine, .manualReview, "repository-engine-missing"⟩
  else if record.repositoryEngine = some "xet" then ⟨.xet, .notNeeded, "already-xet"⟩
  else
    ⟨.otherEngine, .notNeeded,
      if record.repositoryEngine.isSome then "other-engine" else "non-canonical-row"⟩

/-- A row is **risky** when it depends on the legacy engine or names no engine. -/
def Classification.risky (c : Classification) : Bool :=
  c.inventoryStatus = .legacyKopia || c.inventoryStatus = .missingEngine

/-- **What a classification is**: rows that need something are risky, and every risky row needs
either a restore or a review. -/
theorem classifyRecord_risky_iff (record : MigrationRecord) :
    (classifyRecord record).risky = true ↔
      (classifyRecord record).recanonicalizationStatus = .eligible ∨
        (classifyRecord record).recanonicalizationStatus = .manualReview := by
  unfold classifyRecord
  split_ifs <;> simp [Classification.risky]

/-! ### The inventory -/

structure InventorySummary where
  totalRows : Nat
  xetRows : Nat := 0
  legacyKopiaRows : Nat := 0
  missingEngineRows : Nat := 0
  otherEngineRows : Nat := 0
  eligibleLegacyRows : Nat := 0
  manualReviewRows : Nat := 0
  deriving DecidableEq, Repr

/-- A record with its classification. -/
structure RiskyRow where
  record : MigrationRecord
  classification : Classification
  deriving DecidableEq, Repr

structure InventoryReport where
  summary : InventorySummary
  riskyRows : List RiskyRow
  deriving DecidableEq, Repr

/-- The row count of an inventory status. -/
def InventorySummary.countEngine (summary : InventorySummary) :
    InventoryStatus → InventorySummary
  | .xet => { summary with xetRows := summary.xetRows + 1 }
  | .legacyKopia => { summary with legacyKopiaRows := summary.legacyKopiaRows + 1 }
  | .missingEngine => { summary with missingEngineRows := summary.missingEngineRows + 1 }
  | .otherEngine => { summary with otherEngineRows := summary.otherEngineRows + 1 }

/-- The row count of a recanonicalization status. -/
def InventorySummary.countStatus (summary : InventorySummary) :
    RecanonicalizationStatus → InventorySummary
  | .eligible => { summary with eligibleLegacyRows := summary.eligibleLegacyRows + 1 }
  | .manualReview => { summary with manualReviewRows := summary.manualReviewRows + 1 }
  | _ => summary

/-- One iteration of the inventory. -/
def inventoryStep (report : InventoryReport) (record : MigrationRecord) : InventoryReport :=
  let classification := classifyRecord record
  { summary :=
      (report.summary.countEngine classification.inventoryStatus).countStatus
        classification.recanonicalizationStatus
    riskyRows :=
      if classification.risky then report.riskyRows ++ [⟨record, classification⟩]
      else report.riskyRows }

def buildInventoryReport (records : List JsValue) : Except String InventoryReport := do
  let normalizedRecords ← records.mapM (normalizeMigrationRecord rt)
  return normalizedRecords.foldl inventoryStep ⟨{ totalRows := normalizedRecords.length }, []⟩

/-! ### The plan -/

/-- The evidence of a candidate snapshot, as the report shows it. -/
structure CandidateCanonicalSource where
  repositoryEngine : String
  canonicalSourceId : String
  canonicalSnapshotId : String
  canonicalLogicalPath : String
  canonicalDigestSet : List JsValue
  canonicalLogicalByteLength : Option String
  canonicalStoredByteLength : Option String
  sourceReconstructionHandles : Option (List JsValue)
  sourceSubstrateHints : Option (List (String × JsValue))
  dedupeMetrics : Option (List (String × JsValue))

structure MigrationOperation where
  record : MigrationRecord
  inventoryStatus : InventoryStatus
  recanonicalizationStatus : RecanonicalizationStatus
  reason : String
  registryMutation : String
  candidateCanonicalSource : Option CandidateCanonicalSource := none

structure RecanonicalizationSummary where
  selectedRows : Nat
  eligibleRows : Nat
  manualReviewRows : Nat
  materializedRows : Nat := 0
  failedRows : Nat := 0
  deriving DecidableEq, Repr

structure RecanonicalizationReport where
  apply : Bool
  targetEngine : String
  summary : RecanonicalizationSummary
  operations : List MigrationOperation

/-- The operation that is planned for a risky row. -/
def RiskyRow.operation (row : RiskyRow) : MigrationOperation where
  record := row.record
  inventoryStatus := row.classification.inventoryStatus
  recanonicalizationStatus := row.classification.recanonicalizationStatus
  reason := row.classification.reason
  registryMutation := "none"

/-- The operation that is planned for a record, if it is risky. -/
def plannedOperation (record : MigrationRecord) : Option MigrationOperation :=
  let classification := classifyRecord record
  if classification.inventoryStatus ≠ .legacyKopia ∧
      classification.inventoryStatus ≠ .missingEngine then none
  else some (RiskyRow.operation ⟨record, classification⟩)

def MigrationOperation.hasStatus (status : RecanonicalizationStatus) (op : MigrationOperation) :
    Bool :=
  op.recanonicalizationStatus = status

def buildRecanonicalizationPlan (apply : Bool) (targetEngine : String) (records : List JsValue) :
    Except String RecanonicalizationReport := do
  let normalizedRecords ← records.mapM (normalizeMigrationRecord rt)
  let operations := normalizedRecords.filterMap plannedOperation
  return {
    apply
    targetEngine
    summary :=
      { selectedRows := operations.length
        eligibleRows := operations.countP (MigrationOperation.hasStatus .eligible)
        manualReviewRows := operations.countP (MigrationOperation.hasStatus .manualReview) }
    operations }

/-! ### The apply loop -/

/-- `BigInt(text)` of a text that is given. -/
def bigIntOfOptional (text : Option String) : Except RegistryError (Option Int) :=
  match present text with
  | none => .ok none
  | some text =>
      match bigIntOfText text with
      | some n => .ok (some n)
      | none => .error (.thrown "SyntaxError" ("Cannot convert " ++ text ++ " to a BigInt"))

/-- The snapshot that the evidence of a record describes. -/
def toSnapshotInput (record : MigrationRecord) : Except RegistryError SnapshotResult :=
  match record.repositoryEngine with
  | none => .error (.plain ("Version " ++ quoted record.versionId ++
      " is missing repositoryEngine and cannot be re-canonicalized safely."))
  | some repositoryEngine =>
      match record.canonicalSourceId, record.canonicalSnapshotId, record.canonicalLogicalPath with
      | some canonicalSourceId, some snapshotId, some logicalPath => do
          let logicalByteLength ← bigIntOfOptional record.canonicalLogicalByteLength
          let storedByteLength ← bigIntOfOptional record.canonicalStoredByteLength
          return {
            repositoryEngine
            canonicalSourceId
            snapshotId
            logicalPath
            digests := record.canonicalDigestSet.map ObjectChecksum.toJs
            logicalByteLength
            storedByteLength
            reconstructionHandles :=
              if record.sourceReconstructionHandles.isEmpty then none
              else some (record.sourceReconstructionHandles.map fun handle =>
                .object [("kind", .string handle.1), ("value", .string handle.2)])
            substrateHints := record.sourceSubstrateHints.map fun hints =>
              hints.map fun hint => (hint.1, .string hint.2) }
      | _, _, _ => .error (.plain ("Version " ++ quoted record.versionId ++
          " is missing canonical source evidence and cannot be re-canonicalized safely."))

mutual

/-- `toSerializableValue`. -/
def toSerializableValue : JsValue → JsValue
  | .bigint n => .string (toString n)
  | .array items => .array (toSerializableItems items)
  | .object entries => .object (toSerializableEntries entries)
  | value => value

def toSerializableItems : List JsValue → List JsValue
  | [] => []
  | item :: items => toSerializableValue item :: toSerializableItems items

def toSerializableEntries : List (String × JsValue) → List (String × JsValue)
  | [] => []
  | (key, entry) :: entries => (key, toSerializableValue entry) :: toSerializableEntries entries

end

def toSerializableCandidate (snapshot : SnapshotResult) : CandidateCanonicalSource where
  repositoryEngine := snapshot.repositoryEngine
  canonicalSourceId := snapshot.canonicalSourceId
  canonicalSnapshotId := snapshot.snapshotId
  canonicalLogicalPath := snapshot.logicalPath
  canonicalDigestSet := snapshot.digests
  canonicalLogicalByteLength := snapshot.logicalByteLength.map toString
  canonicalStoredByteLength := snapshot.storedByteLength.map toString
  sourceReconstructionHandles := snapshot.reconstructionHandles
  sourceSubstrateHints := snapshot.substrateHints
  dedupeMetrics := snapshot.dedupeMetrics.map toSerializableEntries

/-- The steps of one row that leave the script. -/
structure RowSteps where
  makeDirectory : Except RegistryError Unit
  restoreToPath : RestoreSnapshotInput → Except RegistryError String
  snapshotFromPath : SourceSnapshotInput → Except RegistryError SnapshotResult
  removeDirectory : Except RegistryError Unit

/-- Where a row is restored to. -/
def restorePath (workDirectory : Path) (record : MigrationRecord) : String :=
  String.ofList (joinPath workDirectory ["restores".toList, record.assetId.toList,
    record.versionId.toList, basename record.sourceFilename.toList]).text

/-- What a restored row is snapshotted with. -/
def candidateInput (record : MigrationRecord) (restoredPath : String) :
    Except RegistryError SourceSnapshotInput := do
  let logicalByteLength ← bigIntOfOptional record.canonicalLogicalByteLength
  return {
    assetVersionId := record.versionId
    localPath := restoredPath
    sourceFilename := String.ofList (basename record.sourceFilename.toList)
    logicalByteLength
    sourceDigests :=
      if record.canonicalDigestSet.isEmpty then none else some record.canonicalDigestSet
    metadata := some
      ([("migrationSourceAssetId", record.assetId),
        ("migrationSourceVersionId", record.versionId)] ++
        record.repositoryEngine.toList.map fun engine => ("originalRepositoryEngine", engine)) }

/-- The restores of a row, and what it is snapshotted as. -/
def recanonicalizeRow (workDirectory : Path) (steps : RowSteps) (record : MigrationRecord) :
    List RestoreSnapshotInput × Except RegistryError SnapshotResult :=
  match steps.makeDirectory with
  | .error e => ([], .error e)
  | .ok () =>
      match toSnapshotInput record with
      | .error e => ([], .error e)
      | .ok snapshot =>
          let request : RestoreSnapshotInput :=
            { canonicalSourceId := snapshot.canonicalSourceId
              destinationPath := restorePath workDirectory record
              snapshot := some snapshot }
          ([request], do
            let restoredPath ← steps.restoreToPath request
            let input ← candidateInput record restoredPath
            steps.snapshotFromPath input)

/-- What a failed row reports. -/
def failureReason (e : RegistryError) : String :=
  if e.name.isSome then e.message rt.toRuntime else "Unknown re-canonicalization failure."

/-- An operation that has been restored and snapshotted. -/
def MigrationOperation.recanonicalize (op : MigrationOperation) (snapshot : SnapshotResult) :
    MigrationOperation :=
  { op with
    recanonicalizationStatus := .recanonicalized
    reason := "legacy-kopia-restored-and-snapshotted-into-xet"
    registryMutation := "none"
    candidateCanonicalSource := some (toSerializableCandidate snapshot) }

/-- An operation that has failed. -/
def MigrationOperation.fail (op : MigrationOperation) (e : RegistryError) : MigrationOperation :=
  { op with
    recanonicalizationStatus := .failed
    reason := failureReason rt e }

/-- The variables of the apply loop: the operations that it is done with, the summary, and the
restores that it has asked for, each with the place of its row. -/
structure ApplyProgress where
  operations : List MigrationOperation
  summary : RecanonicalizationSummary
  restores : List (Nat × RestoreSnapshotInput)

/-- One iteration of the apply loop; it throws when what was restored cannot be removed. -/
def applyOperation (workDirectory : Path) (steps : RowSteps) (progress : ApplyProgress)
    (op : MigrationOperation) : Except RegistryError ApplyProgress :=
  if op.recanonicalizationStatus ≠ .eligible then
    .ok { progress with operations := progress.operations ++ [op] }
  else
    let (requests, outcome) := recanonicalizeRow workDirectory steps op.record
    let restores := progress.restores ++ requests.map fun request =>
      (progress.operations.length, request)
    let progress :=
      match outcome with
      | .ok snapshot =>
          { operations := progress.operations ++ [op.recanonicalize snapshot]
            summary :=
              { progress.summary with
                materializedRows := progress.summary.materializedRows + 1 }
            restores }
      | .error e =>
          { operations := progress.operations ++ [op.fail rt e]
            summary := { progress.summary with failedRows := progress.summary.failedRows + 1 }
            restores }
    steps.removeDirectory.map fun () => progress

/-- The apply loop over the operations that follow those it is done with; the steps of a row are
given by its place. -/
def applyOperations (workDirectory : Path) (steps : Nat → RowSteps) (progress : ApplyProgress) :
    List MigrationOperation → Except RegistryError ApplyProgress
  | [] => .ok progress
  | op :: ops => do
      let progress ← applyOperation rt workDirectory (steps progress.operations.length) progress op
      applyOperations workDirectory steps progress ops

/-- `runRecanonicalizeCommand` in apply mode, for records that have been loaded: the report, and
the restores that it asked for. The `mkdir` of the working directory before the loop and the `rm`
of all restores after it are left out: where one of them rejects, the command rejects as well. -/
def runRecanonicalizeCommand (workDirectory : Path) (steps : Nat → RowSteps) (targetEngine : String)
    (records : List JsValue) :
    Except RegistryError (RecanonicalizationReport × List (Nat × RestoreSnapshotInput)) := do
  let report ← (buildRecanonicalizationPlan rt true targetEngine records).mapError
    RegistryError.plain
  if targetEngine ≠ "xet" then
    .error (.plain ("Re-canonicalization apply mode requires Xet as the target engine. Received " ++
      quoted targetEngine ++ "."))
  else do
    let progress ← applyOperations rt workDirectory steps ⟨[], report.summary, []⟩ report.operations
    return ({ report with summary := progress.summary, operations := progress.operations },
      progress.restores)

/-! ### The two reports -/

variable {rt}

/-- The row of a record in the inventory, if it is risky. -/
def riskyRow (record : MigrationRecord) : Option RiskyRow :=
  if (classifyRecord record).risky then some ⟨record, classifyRecord record⟩ else none

theorem plannedOperation_eq (record : MigrationRecord) :
    plannedOperation record = (riskyRow record).map RiskyRow.operation := by
  rw [plannedOperation, riskyRow]
  cases hstatus : (classifyRecord record).inventoryStatus <;>
    simp [Classification.risky, hstatus]

/-- The rows of all engines. -/
def InventorySummary.engineRows (summary : InventorySummary) : Nat :=
  summary.xetRows + summary.legacyKopiaRows + summary.missingEngineRows + summary.otherEngineRows

theorem engineRows_count (summary : InventorySummary) (engine : InventoryStatus)
    (status : RecanonicalizationStatus) :
    ((summary.countEngine engine).countStatus status).engineRows = summary.engineRows + 1 := by
  cases engine <;> cases status <;>
    simp only [InventorySummary.countEngine, InventorySummary.countStatus,
      InventorySummary.engineRows] <;> omega

/-- A record that has a status once it is classified. -/
def classifiedAs (status : RecanonicalizationStatus) (record : MigrationRecord) : Bool :=
  (classifyRecord record).recanonicalizationStatus = status

/-- The rows of the two statuses that a risky row can have. -/
def InventorySummary.statusRows (summary : InventorySummary) : Bool → Nat
  | true => summary.eligibleLegacyRows
  | false => summary.manualReviewRows

theorem statusRows_count (summary : InventorySummary) (record : MigrationRecord) (eligible : Bool) :
    ((summary.countEngine (classifyRecord record).inventoryStatus).countStatus
      (classifyRecord record).recanonicalizationStatus).statusRows eligible =
      summary.statusRows eligible +
        [record].countP (classifiedAs (if eligible then .eligible else .manualReview)) := by
  unfold classifiedAs
  cases eligible <;> cases (classifyRecord record).inventoryStatus <;>
    cases hstatus : (classifyRecord record).recanonicalizationStatus <;>
    simp [InventorySummary.countEngine, InventorySummary.countStatus, InventorySummary.statusRows,
      hstatus]

theorem totalRows_count (summary : InventorySummary) (engine : InventoryStatus)
    (status : RecanonicalizationStatus) :
    ((summary.countEngine engine).countStatus status).totalRows = summary.totalRows := by
  cases engine <;> cases status <;> rfl

/-- **What the inventory loop does**: it keeps the risky rows and counts every row once. -/
theorem foldl_inventoryStep (records : List MigrationRecord) (report : InventoryReport) :
    (records.foldl inventoryStep report).riskyRows =
        report.riskyRows ++ records.filterMap riskyRow ∧
      (records.foldl inventoryStep report).summary.totalRows = report.summary.totalRows ∧
      (records.foldl inventoryStep report).summary.engineRows =
        report.summary.engineRows + records.length ∧
      (records.foldl inventoryStep report).summary.eligibleLegacyRows =
        report.summary.eligibleLegacyRows + records.countP (classifiedAs .eligible) ∧
      (records.foldl inventoryStep report).summary.manualReviewRows =
        report.summary.manualReviewRows + records.countP (classifiedAs .manualReview) := by
  induction records generalizing report with
  | nil => simp
  | cons record records ih =>
      obtain ⟨hrows, htotal, hengines, heligible, hmanual⟩ := ih (inventoryStep report record)
      refine ⟨?_, ?_, ?_, ?_, ?_⟩
      · rw [List.foldl_cons, hrows, inventoryStep, List.filterMap_cons, riskyRow]
        split <;> simp
      · rw [List.foldl_cons, htotal]
        exact totalRows_count _ _ _
      · rw [List.foldl_cons, hengines, List.length_cons, inventoryStep, engineRows_count]
        omega
      · have hcount := statusRows_count report.summary record true
        rw [List.foldl_cons, heligible, ← List.singleton_append, List.countP_append,
          ← Nat.add_assoc]
        exact congrArg (· + records.countP (classifiedAs .eligible)) hcount
      · have hcount := statusRows_count report.summary record false
        rw [List.foldl_cons, hmanual, ← List.singleton_append, List.countP_append, ← Nat.add_assoc]
        exact congrArg (· + records.countP (classifiedAs .manualReview)) hcount

/-- The planned operations of a status are the records of that status, for the two statuses of a
risky row. -/
theorem countP_plannedOperation {status : RecanonicalizationStatus}
    (hstatus : status = .eligible ∨ status = .manualReview) (records : List MigrationRecord) :
    (records.filterMap plannedOperation).countP (MigrationOperation.hasStatus status) =
      records.countP (classifiedAs status) := by
  induction records with
  | nil => rfl
  | cons record records ih =>
      rw [List.filterMap_cons, plannedOperation_eq, riskyRow]
      cases hrisky : (classifyRecord record).risky with
      | true =>
          rw [if_pos rfl, Option.map_some, List.countP_cons, List.countP_cons, ih]
          rfl
      | false =>
          have hnot : classifiedAs status record = false := by
            refine decide_eq_false fun heq => ?_
            have hneeds := (classifyRecord_risky_iff record).mpr
              (by rw [heq]; exact hstatus)
            rw [hrisky] at hneeds
            cases hneeds
          rw [if_neg Bool.false_ne_true, Option.map_none, List.countP_cons, hnot, ih]
          rfl

/-- **The plan agrees with the inventory** of the same records. -/
structure PlanAgrees (total : Nat) (inventory : InventoryReport)
    (plan : RecanonicalizationReport) : Prop where
  operations : plan.operations = inventory.riskyRows.map RiskyRow.operation
  eligible : plan.summary.eligibleRows = inventory.summary.eligibleLegacyRows
  manualReview : plan.summary.manualReviewRows = inventory.summary.manualReviewRows
  engines : inventory.summary.xetRows + inventory.summary.legacyKopiaRows +
    inventory.summary.missingEngineRows + inventory.summary.otherEngineRows =
    inventory.summary.totalRows
  total : inventory.summary.totalRows = total

theorem foldl_inventoryStep_planAgrees (apply : Bool) (targetEngine : String)
    (records : List MigrationRecord) :
    PlanAgrees records.length
      (records.foldl inventoryStep ⟨{ totalRows := records.length }, []⟩)
      { apply
        targetEngine
        summary :=
          { selectedRows := (records.filterMap plannedOperation).length
            eligibleRows :=
              (records.filterMap plannedOperation).countP (MigrationOperation.hasStatus .eligible)
            manualReviewRows :=
              (records.filterMap plannedOperation).countP
                (MigrationOperation.hasStatus .manualReview) }
        operations := records.filterMap plannedOperation } := by
  obtain ⟨hrows, htotal, hengines, heligible, hmanual⟩ :=
    foldl_inventoryStep records ⟨{ totalRows := records.length }, []⟩
  refine ⟨?_, ?_, ?_, ?_, htotal⟩
  · rw [hrows, List.nil_append, List.map_filterMap]
    exact List.filterMap_congr fun record _ => plannedOperation_eq record
  · rw [heligible]
    exact (countP_plannedOperation (.inl rfl) records).trans (Nat.zero_add _).symm
  · rw [hmanual]
    exact (countP_plannedOperation (.inr rfl) records).trans (Nat.zero_add _).symm
  · rw [htotal]
    exact hengines.trans (Nat.zero_add _)

/-! ### The apply loop over a whole plan -/

/-- What the apply loop makes of an operation. -/
def appliedOperation (rt : MigrationRuntime) (workDirectory : Path) (steps : RowSteps)
    (op : MigrationOperation) : MigrationOperation :=
  if op.recanonicalizationStatus = .eligible then
    match (recanonicalizeRow workDirectory steps op.record).2 with
    | .ok snapshot => op.recanonicalize snapshot
    | .error e => op.fail rt e
  else op

/-- The restores that the apply loop asks for on an operation. -/
def requestedRestores (workDirectory : Path) (steps : RowSteps) (op : MigrationOperation) :
    List RestoreSnapshotInput :=
  if op.recanonicalizationStatus = .eligible then
    (recanonicalizeRow workDirectory steps op.record).1
  else []

theorem requestedRestores_of_eligible (workDirectory : Path) (steps : RowSteps)
    {op : MigrationOperation} (h : op.recanonicalizationStatus = .eligible) :
    requestedRestores workDirectory steps op =
      (recanonicalizeRow workDirectory steps op.record).1 :=
  if_pos h

/-- A planned operation has the status of its record, is eligible or left for review, and mutates
nothing. -/
structure MigrationOperation.Planned (op : MigrationOperation) : Prop where
  status : op.recanonicalizationStatus = (classifyRecord op.record).recanonicalizationStatus
  needed : op.hasStatus .eligible = true ∨ op.hasStatus .manualReview = true
  registryMutation : op.registryMutation = "none"

theorem planned_of_mem {records : List MigrationRecord} {op : MigrationOperation}
    (h : op ∈ records.filterMap plannedOperation) : op.Planned := by
  obtain ⟨record, -, hop⟩ := List.mem_filterMap.mp h
  rw [plannedOperation_eq, riskyRow] at hop
  cases hrisky : (classifyRecord record).risky with
  | false =>
      rw [hrisky] at hop
      cases hop
  | true =>
      rw [hrisky] at hop
      cases hop
      refine ⟨rfl, ?_, rfl⟩
      cases (classifyRecord_risky_iff record).mp hrisky with
      | inl heligible => exact .inl (decide_eq_true heligible)
      | inr hmanual => exact .inr (decide_eq_true hmanual)

theorem registryMutation_appliedOperation {op : MigrationOperation}
    (h : op.registryMutation = "none") (workDirectory : Path) (steps : RowSteps) :
    (appliedOperation rt workDirectory steps op).registryMutation = "none" := by
  unfold appliedOperation
  split
  · split
    · rfl
    · exact h
  · exact h

/-- **What becomes of a planned operation**: an eligible one is recanonicalized or fails, and any
other is left as it is. -/
theorem appliedOperation_cases (rt : MigrationRuntime) (workDirectory : Path) (steps : RowSteps)
    (op : MigrationOperation) :
    (op.hasStatus .eligible = true ∧
      ((appliedOperation rt workDirectory steps op).hasStatus .recanonicalized = true ∨
        (appliedOperation rt workDirectory steps op).hasStatus .failed = true)) ∨
    (op.hasStatus .eligible = false ∧ appliedOperation rt workDirectory steps op = op) := by
  unfold appliedOperation
  by_cases heligible : op.recanonicalizationStatus = .eligible
  · rw [if_pos heligible]
    refine .inl ⟨decide_eq_true heligible, ?_⟩
    split
    · exact .inl rfl
    · exact .inr rfl
  · rw [if_neg heligible]
    exact .inr ⟨decide_eq_false heligible, rfl⟩

/-- The law of the loop, over the operations that it is done with. -/
structure ApplyProgress.Accounts (rt : MigrationRuntime) (workDirectory : Path)
    (steps : Nat → RowSteps) (before : RecanonicalizationSummary) (done : List MigrationOperation)
    (progress : ApplyProgress) : Prop where
  operations : progress.operations =
    done.mapIdx fun i op => appliedOperation rt workDirectory (steps i) op
  selectedRows : progress.summary.selectedRows = before.selectedRows
  eligibleRows : progress.summary.eligibleRows = before.eligibleRows
  manualReviewRows : progress.summary.manualReviewRows = before.manualReviewRows
  materializedRows : progress.summary.materializedRows =
    before.materializedRows +
      progress.operations.countP (MigrationOperation.hasStatus .recanonicalized)
  failedRows : progress.summary.failedRows =
    before.failedRows + progress.operations.countP (MigrationOperation.hasStatus .failed)
  outcomes : progress.operations.countP (MigrationOperation.hasStatus .recanonicalized) +
    progress.operations.countP (MigrationOperation.hasStatus .failed) =
    done.countP (MigrationOperation.hasStatus .eligible)
  restores : ∀ entry ∈ progress.restores, ∃ op, done[entry.1]? = some op ∧
    entry.2 ∈ requestedRestores workDirectory (steps entry.1) op

theorem hasStatus_of_ne {op : MigrationOperation} {status other : RecanonicalizationStatus}
    (h : op.hasStatus status = true) (hne : status ≠ other) : op.hasStatus other = false := by
  refine decide_eq_false fun heq => hne ?_
  rw [← heq]
  exact (of_decide_eq_true h).symm

/-- The variables of the loop after an operation that it leaves alone. -/
def ApplyProgress.skip (progress : ApplyProgress) (op : MigrationOperation) : ApplyProgress :=
  { progress with operations := progress.operations ++ [op] }

/-- The variables of the loop after an operation that it has restored and snapshotted. -/
def ApplyProgress.materialize (progress : ApplyProgress) (requests : List RestoreSnapshotInput)
    (op : MigrationOperation) : ApplyProgress where
  operations := progress.operations ++ [op]
  summary := { progress.summary with materializedRows := progress.summary.materializedRows + 1 }
  restores := progress.restores ++ requests.map fun request =>
    (progress.operations.length, request)

/-- The variables of the loop after an operation that has failed. -/
def ApplyProgress.countFailure (progress : ApplyProgress) (requests : List RestoreSnapshotInput)
    (op : MigrationOperation) : ApplyProgress where
  operations := progress.operations ++ [op]
  summary := { progress.summary with failedRows := progress.summary.failedRows + 1 }
  restores := progress.restores ++ requests.map fun request =>
    (progress.operations.length, request)

/-- **One iteration of the apply loop**: the operation is skipped, materialized or failed. -/
theorem applyOperation_cases {workDirectory : Path} {steps : RowSteps}
    {progress after : ApplyProgress} {op : MigrationOperation}
    (h : applyOperation rt workDirectory steps progress op = .ok after) :
    (op.recanonicalizationStatus ≠ .eligible ∧ after = progress.skip op) ∨
    (op.recanonicalizationStatus = .eligible ∧
      ∃ snapshot, (recanonicalizeRow workDirectory steps op.record).2 = .ok snapshot ∧
        after = progress.materialize (recanonicalizeRow workDirectory steps op.record).1
          (op.recanonicalize snapshot)) ∨
    (op.recanonicalizationStatus = .eligible ∧
      ∃ e, (recanonicalizeRow workDirectory steps op.record).2 = .error e ∧
        after = progress.countFailure (recanonicalizeRow workDirectory steps op.record).1
          (op.fail rt e)) := by
  unfold applyOperation at h
  by_cases heligible : op.recanonicalizationStatus = .eligible
  · rw [if_neg (not_not.mpr heligible)] at h
    cases hremove : steps.removeDirectory with
    | error e =>
        rw [hremove] at h
        cases h
    | ok u =>
        rw [hremove] at h
        cases houtcome : (recanonicalizeRow workDirectory steps op.record).2 with
        | ok snapshot =>
            simp only [houtcome, Except.map, Except.ok.injEq] at h
            exact .inr (.inl ⟨heligible, snapshot, rfl, h.symm⟩)
        | error e =>
            simp only [houtcome, Except.map, Except.ok.injEq] at h
            exact .inr (.inr ⟨heligible, e, rfl, h.symm⟩)
  · rw [if_pos heligible] at h
    cases h
    exact .inl ⟨heligible, rfl⟩

/-- An iteration ends when what was restored can be removed. -/
theorem applyOperation_total {workDirectory : Path} {steps : RowSteps}
    (hremove : steps.removeDirectory = .ok ()) (progress : ApplyProgress)
    (op : MigrationOperation) :
    ∃ after, applyOperation rt workDirectory steps progress op = .ok after := by
  unfold applyOperation
  split
  · exact ⟨_, rfl⟩
  · rw [hremove]
    exact ⟨_, rfl⟩

theorem applyOperations_total {workDirectory : Path} {steps : Nat → RowSteps}
    (hremove : ∀ i, (steps i).removeDirectory = .ok ()) (ops : List MigrationOperation)
    (progress : ApplyProgress) :
    ∃ after, applyOperations rt workDirectory steps progress ops = .ok after := by
  induction ops generalizing progress with
  | nil => exact ⟨progress, rfl⟩
  | cons op ops ih =>
      obtain ⟨next, hnext⟩ :=
        @applyOperation_total rt workDirectory _ (hremove progress.operations.length) progress op
      obtain ⟨after, hafter⟩ := ih next
      refine ⟨after, ?_⟩
      rw [applyOperations, hnext]
      exact hafter

/-- Restores that were asked for before an operation was added still belong to their places. -/
theorem restores_append {workDirectory : Path} {steps : Nat → RowSteps}
    {done : List MigrationOperation} {restores : List (Nat × RestoreSnapshotInput)}
    (h : ∀ entry ∈ restores, ∃ op, done[entry.1]? = some op ∧
      entry.2 ∈ requestedRestores workDirectory (steps entry.1) op)
    (op : MigrationOperation) {requests : List RestoreSnapshotInput}
    (hrequests : ∀ request ∈ requests,
      request ∈ requestedRestores workDirectory (steps done.length) op) :
    ∀ entry ∈ restores ++ requests.map fun request => (done.length, request),
      ∃ op', (done ++ [op])[entry.1]? = some op' ∧
        entry.2 ∈ requestedRestores workDirectory (steps entry.1) op' := by
  intro entry hentry
  cases List.mem_append.mp hentry with
  | inl hmem =>
      obtain ⟨op', hop', hrequest⟩ := h entry hmem
      obtain ⟨hlt, -⟩ := List.getElem?_eq_some_iff.mp hop'
      exact ⟨op', by rw [List.getElem?_append_left hlt, hop'], hrequest⟩
  | inr hmem =>
      obtain ⟨request, hrequest, rfl⟩ := List.mem_map.mp hmem
      exact ⟨op, by simp, hrequests request hrequest⟩

namespace ApplyProgress.Accounts

variable {workDirectory : Path} {steps : Nat → RowSteps} {before : RecanonicalizationSummary}
  {done : List MigrationOperation} {progress : ApplyProgress}

theorem length_operations (h : progress.Accounts rt workDirectory steps before done) :
    progress.operations.length = done.length := by
  rw [h.operations, List.length_mapIdx]

/-- The law holds before the first iteration. -/
theorem nil (rt : MigrationRuntime) (workDirectory : Path) (steps : Nat → RowSteps)
    (before : RecanonicalizationSummary) :
    Accounts rt workDirectory steps before [] ⟨[], before, []⟩ where
  operations := rfl
  selectedRows := rfl
  eligibleRows := rfl
  manualReviewRows := rfl
  materializedRows := rfl
  failedRows := rfl
  outcomes := rfl
  restores := by
    intro entry hentry
    cases hentry

/-- **An iteration keeps the law.** -/
theorem step {after : ApplyProgress} {op : MigrationOperation}
    (h : progress.Accounts rt workDirectory steps before done) (hplanned : op.Planned)
    (hstep : applyOperation rt workDirectory (steps done.length) progress op = .ok after) :
    after.Accounts rt workDirectory steps before (done ++ [op]) := by
  have hlength := h.length_operations
  obtain ⟨hnot, rfl⟩ | ⟨heligible, snapshot, houtcome, rfl⟩ | ⟨heligible, e, houtcome, rfl⟩ :=
    applyOperation_cases hstep
  · have happlied : appliedOperation rt workDirectory (steps done.length) op = op := if_neg hnot
    have hmanual : op.recanonicalizationStatus = .manualReview :=
      of_decide_eq_true (hplanned.needed.resolve_left fun heq => hnot (of_decide_eq_true heq))
    refine ⟨?_, h.selectedRows, h.eligibleRows, h.manualReviewRows, ?_, ?_, ?_, ?_⟩
    · rw [List.mapIdx_concat, happlied, skip, h.operations]
    · simpa [skip, MigrationOperation.hasStatus, hmanual] using h.materializedRows
    · simpa [skip, MigrationOperation.hasStatus, hmanual] using h.failedRows
    · simpa [skip, MigrationOperation.hasStatus, hmanual] using h.outcomes
    · have hnone : ∀ request ∈ ([] : List RestoreSnapshotInput),
          request ∈ requestedRestores workDirectory (steps done.length) op := by
        intro request hrequest
        cases hrequest
      have hrestores := restores_append h.restores op hnone
      rw [List.map_nil, List.append_nil] at hrestores
      exact hrestores
  · have happlied : appliedOperation rt workDirectory (steps done.length) op =
        op.recanonicalize snapshot := by
      rw [appliedOperation, if_pos heligible, houtcome]
    have hrequests := requestedRestores_of_eligible workDirectory (steps done.length) heligible
    refine ⟨?_, h.selectedRows, h.eligibleRows, h.manualReviewRows, ?_, ?_, ?_, ?_⟩
    · rw [List.mapIdx_concat, happlied, materialize, h.operations]
    · simp [materialize, MigrationOperation.hasStatus, MigrationOperation.recanonicalize,
        h.materializedRows, Nat.add_assoc]
    · simpa [materialize, MigrationOperation.hasStatus, MigrationOperation.recanonicalize]
        using h.failedRows
    · have houtcomes := h.outcomes
      simp [materialize, MigrationOperation.hasStatus, MigrationOperation.recanonicalize,
        heligible] at houtcomes ⊢
      omega
    · rw [materialize, hlength]
      exact restores_append h.restores op fun _ hrequest => hrequests ▸ hrequest
  · have happlied : appliedOperation rt workDirectory (steps done.length) op = op.fail rt e := by
      rw [appliedOperation, if_pos heligible, houtcome]
    have hrequests := requestedRestores_of_eligible workDirectory (steps done.length) heligible
    refine ⟨?_, h.selectedRows, h.eligibleRows, h.manualReviewRows, ?_, ?_, ?_, ?_⟩
    · rw [List.mapIdx_concat, happlied, countFailure, h.operations]
    · simpa [countFailure, MigrationOperation.hasStatus, MigrationOperation.fail]
        using h.materializedRows
    · simp [countFailure, MigrationOperation.hasStatus, MigrationOperation.fail, h.failedRows,
        Nat.add_assoc]
    · have houtcomes := h.outcomes
      simp [countFailure, MigrationOperation.hasStatus, MigrationOperation.fail, heligible]
        at houtcomes ⊢
      omega
    · rw [countFailure, hlength]
      exact restores_append h.restores op fun _ hrequest => hrequests ▸ hrequest

end ApplyProgress.Accounts

/-- **The apply loop keeps its law**: by induction on the operations that are left. -/
theorem applyOperations_accounts {workDirectory : Path} {steps : Nat → RowSteps}
    {before : RecanonicalizationSummary} (ops : List MigrationOperation)
    (hplanned : ∀ op ∈ ops, op.Planned) {done : List MigrationOperation}
    {progress after : ApplyProgress}
    (h : progress.Accounts rt workDirectory steps before done)
    (hrun : applyOperations rt workDirectory steps progress ops = .ok after) :
    after.Accounts rt workDirectory steps before (done ++ ops) := by
  induction ops generalizing done progress with
  | nil =>
      cases hrun
      rw [List.append_nil]
      exact h
  | cons op ops ih =>
      obtain ⟨next, hnext, hrest⟩ := bind_eq_ok.mp hrun
      rw [h.length_operations] at hnext
      have hstep := h.step (hplanned op List.mem_cons_self) hnext
      rw [← List.singleton_append, ← List.append_assoc]
      exact ih (fun op hop => hplanned op (List.mem_cons_of_mem _ hop)) hstep hrest

/-! ### The command -/

/-- **The report of an applied plan** accounts for its operations, its counts and its restores. -/
structure ApplyAccounts (plan report : RecanonicalizationReport)
    (restores : List (Nat × RestoreSnapshotInput)) : Prop where
  outcomes : report.summary.materializedRows + report.summary.failedRows =
    plan.summary.eligibleRows
  materialized : report.summary.materializedRows =
    report.operations.countP (MigrationOperation.hasStatus .recanonicalized)
  failed : report.summary.failedRows =
    report.operations.countP (MigrationOperation.hasStatus .failed)
  selectedRows : report.summary.selectedRows = plan.summary.selectedRows
  eligibleRows : report.summary.eligibleRows = plan.summary.eligibleRows
  manualReviewRows : report.summary.manualReviewRows = plan.summary.manualReviewRows
  length : report.operations.length = plan.operations.length
  eligible : ∀ {i : Nat} {op : MigrationOperation}, plan.operations[i]? = some op →
    op.hasStatus .eligible = true → ∃ op', report.operations[i]? = some op' ∧
      op'.record = op.record ∧
      (op'.hasStatus .recanonicalized = true ∨ op'.hasStatus .failed = true)
  manualReview : ∀ {i : Nat} {op : MigrationOperation}, plan.operations[i]? = some op →
    op.hasStatus .manualReview = true → report.operations[i]? = some op ∧
      ∀ request, (i, request) ∉ restores
  registryMutation : ∀ op ∈ report.operations, op.registryMutation = "none"

theorem record_appliedOperation (workDirectory : Path) (steps : RowSteps)
    (op : MigrationOperation) :
    (appliedOperation rt workDirectory steps op).record = op.record := by
  unfold appliedOperation
  split
  · split <;> rfl
  · rfl

theorem requestedRestores_of_manualReview {op : MigrationOperation}
    (h : op.hasStatus .manualReview = true) (workDirectory : Path) (steps : RowSteps) :
    requestedRestores workDirectory steps op = [] := by
  have hmanual : op.recanonicalizationStatus = .manualReview := of_decide_eq_true h
  rw [requestedRestores, if_neg]
  rw [hmanual]
  decide

/-- The law of the loop gives the report. -/
theorem ApplyProgress.Accounts.report {workDirectory : Path} {steps : Nat → RowSteps}
    {plan : RecanonicalizationReport} {progress : ApplyProgress}
    (h : progress.Accounts rt workDirectory steps plan.summary plan.operations)
    (hplanned : ∀ op ∈ plan.operations, op.Planned)
    (hmaterialized : plan.summary.materializedRows = 0) (hfailed : plan.summary.failedRows = 0)
    (heligibleRows : plan.summary.eligibleRows =
      plan.operations.countP (MigrationOperation.hasStatus .eligible)) :
    ApplyAccounts plan
      { plan with summary := progress.summary, operations := progress.operations }
      progress.restores where
  outcomes := by
    rw [heligibleRows, ← h.outcomes, h.materializedRows, h.failedRows, hmaterialized, hfailed,
      Nat.zero_add, Nat.zero_add]
  materialized := by rw [h.materializedRows, hmaterialized, Nat.zero_add]
  failed := by rw [h.failedRows, hfailed, Nat.zero_add]
  selectedRows := h.selectedRows
  eligibleRows := h.eligibleRows
  manualReviewRows := h.manualReviewRows
  length := h.length_operations
  eligible := by
    intro i op hop heligible
    refine ⟨appliedOperation rt workDirectory (steps i) op, ?_, record_appliedOperation _ _ _, ?_⟩
    · rw [h.operations, List.getElem?_mapIdx, hop]
      rfl
    · cases appliedOperation_cases rt workDirectory (steps i) op with
      | inl hcase => exact hcase.2
      | inr hcase =>
          rw [heligible] at hcase
          cases hcase.1
  manualReview := by
    intro i op hop hmanual
    have hnot : op.hasStatus .eligible = false := hasStatus_of_ne hmanual (by decide)
    refine ⟨?_, ?_⟩
    · cases appliedOperation_cases rt workDirectory (steps i) op with
      | inl hcase =>
          rw [hnot] at hcase
          cases hcase.1
      | inr hcase =>
          rw [h.operations, List.getElem?_mapIdx, hop, Option.map_some, hcase.2]
    · intro request hrequest
      obtain ⟨op', hop', hmem⟩ := h.restores _ hrequest
      cases hop.symm.trans hop'
      rw [requestedRestores_of_manualReview hmanual] at hmem
      cases hmem
  registryMutation := by
    intro op hop
    rw [h.operations] at hop
    obtain ⟨i, hlt, rfl⟩ := List.mem_mapIdx.mp hop
    exact registryMutation_appliedOperation (hplanned _ (List.getElem_mem hlt)).registryMutation _ _

/-- A traversal that succeeds has a result for every item. -/
theorem length_of_mapM_eq_ok {ε α β : Type} {f : α → Except ε β} {items : List α}
    {results : List β} (h : items.mapM f = .ok results) : results.length = items.length := by
  induction items generalizing results with
  | nil =>
      cases h
      rfl
  | cons item items ih =>
      rw [List.mapM_cons] at h
      obtain ⟨b, -, hrest⟩ := bind_eq_ok.mp h
      obtain ⟨bs, hbs, hresults⟩ := bind_eq_ok.mp hrest
      cases hresults
      rw [List.length_cons, List.length_cons, ih hbs]

/-- The plan of records that normalize. -/
theorem buildRecanonicalizationPlan_eq_ok {apply : Bool} {targetEngine : String}
    {records : List JsValue} {plan : RecanonicalizationReport}
    (h : buildRecanonicalizationPlan rt apply targetEngine records = .ok plan) :
    ∃ normalized, records.mapM (normalizeMigrationRecord rt) = .ok normalized ∧
      plan =
        { apply
          targetEngine
          summary :=
            { selectedRows := (normalized.filterMap plannedOperation).length
              eligibleRows :=
                (normalized.filterMap plannedOperation).countP
                  (MigrationOperation.hasStatus .eligible)
              manualReviewRows :=
                (normalized.filterMap plannedOperation).countP
                  (MigrationOperation.hasStatus .manualReview) }
          operations := normalized.filterMap plannedOperation } := by
  obtain ⟨normalized, hnormalized, hplan⟩ := bind_eq_ok.mp h
  cases hplan
  exact ⟨normalized, hnormalized, rfl⟩

theorem planned_of_mem_plan {apply : Bool} {targetEngine : String} {records : List JsValue}
    {plan : RecanonicalizationReport}
    (h : buildRecanonicalizationPlan rt apply targetEngine records = .ok plan) :
    ∀ op ∈ plan.operations, op.Planned := by
  obtain ⟨normalized, -, rfl⟩ := buildRecanonicalizationPlan_eq_ok h
  exact fun op hop => planned_of_mem hop

/-- The apply loop keeps its law over the plan of records. -/
theorem applyOperations_plan {apply : Bool} {targetEngine : String} {records : List JsValue}
    {plan : RecanonicalizationReport} {workDirectory : Path} {steps : Nat → RowSteps}
    {progress : ApplyProgress}
    (h : buildRecanonicalizationPlan rt apply targetEngine records = .ok plan)
    (hprogress : applyOperations rt workDirectory steps ⟨[], plan.summary, []⟩ plan.operations =
      .ok progress) :
    progress.Accounts rt workDirectory steps plan.summary plan.operations :=
  applyOperations_accounts _ (planned_of_mem_plan h)
    (ApplyProgress.Accounts.nil rt workDirectory steps _) hprogress

/-- **A run of the command in apply mode**: it plans, and then its loop goes over the plan. -/
theorem runRecanonicalizeCommand_eq_ok_iff {workDirectory : Path} {steps : Nat → RowSteps}
    {targetEngine : String} {records : List JsValue}
    {result : RecanonicalizationReport × List (Nat × RestoreSnapshotInput)} :
    runRecanonicalizeCommand rt workDirectory steps targetEngine records = .ok result ↔
      ∃ plan progress,
        buildRecanonicalizationPlan rt true targetEngine records = .ok plan ∧
        targetEngine = "xet" ∧
        applyOperations rt workDirectory steps ⟨[], plan.summary, []⟩ plan.operations =
          .ok progress ∧
        result =
          ({ plan with summary := progress.summary, operations := progress.operations },
            progress.restores) := by
  constructor
  · intro h
    obtain ⟨plan, hplan, hrest⟩ := bind_eq_ok.mp h
    by_cases htarget : targetEngine = "xet"
    · rw [if_neg (not_not.mpr htarget)] at hrest
      obtain ⟨progress, hprogress, hresult⟩ := bind_eq_ok.mp hrest
      cases hresult
      exact ⟨plan, progress, mapError_eq_ok.mp hplan, htarget, hprogress, rfl⟩
    · rw [if_pos htarget] at hrest
      cases hrest
  · rintro ⟨plan, progress, hplan, htarget, hprogress, rfl⟩
    rw [runRecanonicalizeCommand, hplan, Except.mapError]
    refine bind_eq_ok.mpr ⟨plan, rfl, ?_⟩
    rw [if_neg (not_not.mpr htarget)]
    exact bind_eq_ok.mpr ⟨progress, hprogress, rfl⟩

/-- **The accounting of a migration.** The inventory and the plan of the same records fail together
and agree. An applied plan reports on every eligible row as recanonicalized or failed and leaves
the rows for review alone, whichever steps fail; it ends whenever what was restored can be removed,
and what becomes of a row depends on the steps of that row only. -/
theorem migration_accounts (rt : MigrationRuntime) (records : List JsValue)
    (targetEngine : String) :
    (∀ apply e, buildInventoryReport rt records = .error e ↔
      buildRecanonicalizationPlan rt apply targetEngine records = .error e) ∧
    (∀ apply inventory plan, buildInventoryReport rt records = .ok inventory →
      buildRecanonicalizationPlan rt apply targetEngine records = .ok plan →
      PlanAgrees records.length inventory plan) ∧
    (∀ workDirectory steps plan,
      buildRecanonicalizationPlan rt true "xet" records = .ok plan →
      (∀ i, (steps i).removeDirectory = .ok ()) →
      ∃ result, runRecanonicalizeCommand rt workDirectory steps "xet" records = .ok result) ∧
    (∀ workDirectory steps report restores,
      runRecanonicalizeCommand rt workDirectory steps targetEngine records =
        .ok (report, restores) →
      ∃ plan, buildRecanonicalizationPlan rt true targetEngine records = .ok plan ∧
        ApplyAccounts plan report restores) ∧
    (∀ workDirectory steps steps' result result' i, (∀ j, j ≠ i → steps' j = steps j) →
      runRecanonicalizeCommand rt workDirectory steps targetEngine records = .ok result →
      runRecanonicalizeCommand rt workDirectory steps' targetEngine records = .ok result' →
      ∀ j, j ≠ i → result'.1.operations[j]? = result.1.operations[j]?) := by
  refine ⟨?_, ?_, ?_, ?_, ?_⟩
  · intro apply e
    unfold buildInventoryReport buildRecanonicalizationPlan
    cases records.mapM (normalizeMigrationRecord rt) with
    | error e' =>
        constructor
        · intro h
          cases h
          rfl
        · intro h
          cases h
          rfl
    | ok normalized =>
        constructor
        · intro h
          cases h
        · intro h
          cases h
  · intro apply inventory plan hinventory hplan
    obtain ⟨normalized, hnormalized, rfl⟩ := buildRecanonicalizationPlan_eq_ok hplan
    obtain ⟨normalized', hnormalized', hreport⟩ := bind_eq_ok.mp hinventory
    cases hnormalized.symm.trans hnormalized'
    cases hreport
    rw [← length_of_mapM_eq_ok hnormalized]
    exact foldl_inventoryStep_planAgrees apply targetEngine normalized
  · intro workDirectory steps plan hplan hremove
    obtain ⟨progress, hprogress⟩ :=
      @applyOperations_total rt workDirectory steps hremove plan.operations ⟨[], plan.summary, []⟩
    exact ⟨_, runRecanonicalizeCommand_eq_ok_iff.mpr
      ⟨plan, progress, hplan, rfl, hprogress, rfl⟩⟩
  · intro workDirectory steps report restores hrun
    obtain ⟨plan, progress, hplan, -, hprogress, hresult⟩ :=
      runRecanonicalizeCommand_eq_ok_iff.mp hrun
    cases hresult
    obtain ⟨normalized, -, heq⟩ := buildRecanonicalizationPlan_eq_ok hplan
    have hlaw := applyOperations_plan hplan hprogress
    refine ⟨plan, hplan, hlaw.report (planned_of_mem_plan hplan) ?_ ?_ ?_⟩
    · rw [heq]
    · rw [heq]
    · rw [heq]
  · intro workDirectory steps steps' result result' i hsteps hrun hrun' j hj
    obtain ⟨plan, progress, hplan, -, hprogress, rfl⟩ :=
      runRecanonicalizeCommand_eq_ok_iff.mp hrun
    obtain ⟨plan', progress', hplan', -, hprogress', rfl⟩ :=
      runRecanonicalizeCommand_eq_ok_iff.mp hrun'
    cases hplan.symm.trans hplan'
    have hlaw := applyOperations_plan hplan hprogress
    have hlaw' := applyOperations_plan hplan hprogress'
    rw [hlaw.operations, hlaw'.operations, List.getElem?_mapIdx, List.getElem?_mapIdx,
      hsteps j hj]

/-! ### Sample records -/

/-- A platform for the sample records, whose version numbers are numbers. -/
def sampleMigrationRuntime : MigrationRuntime :=
  { sampleRuntime with
    toNumber := fun value => match value with
      | .number n => n
      | _ => .nan }

/-- The required texts of a sample record. -/
def sampleRecordEntries (versionId : String) : List (String × JsValue) :=
  [("assetId", .string "asset"), ("versionId", .string versionId),
    ("serviceNamespaceId", .string "media"), ("lifecycleState", .string "published"),
    ("sourceFilename", .string "source.png")]

/-- Two rows that can be restored, one that lacks its evidence, and one that needs nothing. -/
def sampleMigrationRecords : List JsValue :=
  [.object (sampleRecordEntries "v1" ++ [("repositoryEngine", .string "kopia"),
      ("canonicalSourceId", .string "s1"), ("canonicalSnapshotId", .string "n1"),
      ("canonicalLogicalPath", .string "p1")]),
    .object (sampleRecordEntries "v2" ++ [("repositoryEngine", .string "kopia")]),
    .object (sampleRecordEntries "v3" ++ [("repositoryEngine", .string "xet")]),
    .object (sampleRecordEntries "v4" ++ [("repositoryEngine", .string "kopia"),
      ("canonicalSourceId", .string "s4"), ("canonicalSnapshotId", .string "n4"),
      ("canonicalLogicalPath", .string "p4")])]

/-- Steps of which the restore of the first row fails. -/
def sampleRowSteps (i : Nat) : RowSteps where
  makeDirectory := .ok ()
  restoreToPath request :=
    if i = 0 then .error (.plain "restore failed") else .ok request.destinationPath
  snapshotFromPath input :=
    .ok {
      repositoryEngine := "xet"
      canonicalSourceId := input.assetVersionId
      snapshotId := input.assetVersionId
      logicalPath := input.localPath
      digests := [] }
  removeDirectory := .ok ()

theorem sample_migration_accounts :
    ∃ plan report restores,
      buildRecanonicalizationPlan sampleMigrationRuntime true "xet" sampleMigrationRecords =
        .ok plan ∧ plan.summary.eligibleRows = 2 ∧ plan.summary.manualReviewRows = 1 ∧
      runRecanonicalizeCommand sampleMigrationRuntime .root sampleRowSteps "xet"
        sampleMigrationRecords = .ok (report, restores) ∧
      ApplyAccounts plan report restores := by
  obtain ⟨plan, hplan, heligible, hmanual⟩ : ∃ plan,
      buildRecanonicalizationPlan sampleMigrationRuntime true "xet" sampleMigrationRecords =
        .ok plan ∧ plan.summary.eligibleRows = 2 ∧ plan.summary.manualReviewRows = 1 :=
    ⟨_, rfl, rfl, rfl⟩
  obtain ⟨-, -, htotal, haccounts, -⟩ :=
    migration_accounts sampleMigrationRuntime sampleMigrationRecords "xet"
  obtain ⟨⟨report, restores⟩, hrun⟩ :=
    htotal .root sampleRowSteps plan hplan fun _ => rfl
  obtain ⟨plan', hplan', hlaw⟩ := haccounts _ _ _ _ hrun
  cases hplan.symm.trans hplan'
  exact ⟨plan, report, restores, hplan, heligible, hmanual, hrun, hlaw⟩

end Cdngine

import VskLabs.Authorization.Plans
import VskLabs.Library.Outcome

/-! Declarations and the checks on their content that the repository repeats
when it commits a plan. -/

namespace VskLabs.Planning
open Authorization

inductive DeclarationStatus where
  | draft | committed | superseded
  deriving DecidableEq

structure OffsiteRunSpec where
  (generationID parentReferenceID repositoryKeyReferenceID observerReferenceID : String)
  deriving DecidableEq

structure DeclarationOperation where
  sequence : Int
  (operationID operationType adapterID targetID inputDigest artifactDigest : String)
  idempotent : Bool
  offsiteRunSpec : Option OffsiteRunSpec

/-- What a declaration check reads of a typed request: the result of the
request's own validator, the names derived from it and its expectations. -/
structure TypedRequest where
  valid : Bool
  (declarationID targetID digest : String)
  (expectedStateRevision expectedDeclarationRevision recoveryEpoch : Int)

structure CIJobRequest extends TypedRequest where
  (executionBindingID deploymentDigest : String)

/-- `valid` covers the contract of the record and the rules on its targets. -/
structure MaintenanceRecord where
  (valid executionAvailable : Bool)
  (stateRevision recoveryEpoch : Int)
  (digest reasonDigest : String)

structure Declaration where
  (declarationID declarationType : String)
  (revision stateRevision recoveryEpoch : Int)
  status : DeclarationStatus
  operations : List DeclarationOperation
  extensions : List ContractExtension
  maintenance : Option MaintenanceRecord
  (hostingLifecycle serviceRecovery serviceDeployment : Option TypedRequest)
  ciJob : Option CIJobRequest
  (ciEnrollment serviceImport networkEndpoint authorizationGrantBatch : Option TypedRequest)
  hostAliasClaim : Option HostAliasClaim

/-- `strings.HasPrefix`. -/
def startsWith (value start : String) : Bool := start.toList.isPrefixOf value.toList

def lastExtension (extensions : List ContractExtension) (name : String) : Option String :=
  (extensions.filter fun extension => extension.name == name).getLast?.map ContractExtension.valueDigest

/-! ### Typed requests -/

structure TypedShape where
  (declarationType operationID operationType adapterID : String)

/-- The declaration checks of typed requests. A declaration the check is about
carries its request, nothing `foreign`, and one operation built from it. -/
def validTyped (declaration : Declaration) (shape : TypedShape) (request : Option TypedRequest)
    (named : DeclarationOperation → Bool) (foreign extended : Bool) (revision : TypedRequest → Int)
    (exact : TypedRequest → DeclarationOperation → Bool) : Bool :=
  if request.isSome || declaration.declarationType == shape.declarationType || declaration.operations.any named then
    match request, declaration.operations with
    | some request, [operation] =>
      request.valid && !foreign && declaration.declarationType == shape.declarationType &&
        declaration.declarationID == request.declarationID && extended &&
        declaration.recoveryEpoch == request.recoveryEpoch &&
        (declaration.status != .draft ||
          declaration.stateRevision == request.expectedStateRevision + 1 && declaration.revision == revision request) &&
        operation.sequence == 1 && operation.operationID == shape.operationID &&
        operation.operationType == shape.operationType && operation.adapterID == shape.adapterID &&
        operation.targetID == request.targetID && exact request operation && !operation.idempotent &&
        operation.offsiteRunSpec == none
    | _, _ => false
  else true

def bothDigests (request : TypedRequest) (operation : DeclarationOperation) : Bool :=
  operation.inputDigest == request.digest && operation.artifactDigest == operation.inputDigest

def onAdapter (adapterID : String) (operation : DeclarationOperation) : Bool := operation.adapterID == adapterID

section Checks

variable (declaration : Declaration)

def validateCIJobDeclaration : Bool :=
  validTyped declaration ⟨"ci.job.execute", "ci-job", "ci.job.execute", "host-action"⟩
    (declaration.ciJob.map CIJobRequest.toTypedRequest) (fun operation => operation.operationType == "ci.job.execute")
    (declaration.ciEnrollment.isSome || declaration.hostingLifecycle.isSome || declaration.serviceRecovery.isSome ||
      declaration.serviceDeployment.isSome || declaration.serviceImport.isSome || declaration.networkEndpoint.isSome ||
      declaration.authorizationGrantBatch.isSome || declaration.hostAliasClaim.isSome)
    (declaration.extensions.map ContractExtension.name == ["x-credential-bindings"]) (fun _ => 1)
    (fun request operation => operation.artifactDigest == request.digest)

def validateCIEnrollmentDeclaration : Bool :=
  validTyped declaration ⟨"ci.enrollment.register", "ci-enrollment", "ci.enrollment.register", "core.ci-enrollment"⟩
    declaration.ciEnrollment (onAdapter "core.ci-enrollment")
    (declaration.hostingLifecycle.isSome || declaration.serviceRecovery.isSome || declaration.serviceDeployment.isSome ||
      declaration.serviceImport.isSome || declaration.networkEndpoint.isSome ||
      declaration.authorizationGrantBatch.isSome || declaration.hostAliasClaim.isSome)
    declaration.extensions.isEmpty (fun _ => 1) bothDigests

def validateHostingLifecycleDeclaration : Bool :=
  validTyped declaration
    ⟨"hosting.lifecycle", "hosting.lifecycle.apply.v1", "hosting.lifecycle.apply", "hosting-lifecycle"⟩
    declaration.hostingLifecycle (onAdapter "hosting-lifecycle")
    (declaration.ciEnrollment.isSome || declaration.serviceRecovery.isSome || declaration.serviceDeployment.isSome ||
      declaration.serviceImport.isSome || declaration.networkEndpoint.isSome ||
      declaration.authorizationGrantBatch.isSome || declaration.hostAliasClaim.isSome)
    declaration.extensions.isEmpty (fun _ => 1) bothDigests

def validateServiceRecoveryDeclaration : Bool :=
  validTyped declaration ⟨"service.recovery", "service-recovery", "service.recover", "core.service-recovery"⟩
    declaration.serviceRecovery (onAdapter "core.service-recovery")
    (declaration.ciEnrollment.isSome || declaration.serviceImport.isSome || declaration.networkEndpoint.isSome ||
      declaration.authorizationGrantBatch.isSome || declaration.hostAliasClaim.isSome)
    declaration.extensions.isEmpty (fun _ => 1) bothDigests

def validateServiceDeploymentDeclaration : Bool :=
  validTyped declaration ⟨"service.deployment", "service-deployment", "service.deploy", "core.service-deployment"⟩
    declaration.serviceDeployment (onAdapter "core.service-deployment")
    (declaration.ciEnrollment.isSome || declaration.serviceImport.isSome || declaration.networkEndpoint.isSome ||
      declaration.authorizationGrantBatch.isSome || declaration.hostAliasClaim.isSome)
    declaration.extensions.isEmpty (fun _ => 1) bothDigests

def validateServiceImportDeclaration : Bool :=
  validTyped declaration ⟨"service.import", "service-import", "service.import", "core.service-import"⟩
    declaration.serviceImport (onAdapter "core.service-import")
    (declaration.ciEnrollment.isSome || declaration.serviceDeployment.isSome || declaration.networkEndpoint.isSome ||
      declaration.authorizationGrantBatch.isSome || declaration.hostAliasClaim.isSome)
    declaration.extensions.isEmpty (fun _ => 1) bothDigests

def validateNetworkEndpointDeclaration : Bool :=
  validTyped declaration ⟨"network.endpoint", "network-endpoint", "network.endpoint.change", "core.network-endpoint"⟩
    declaration.networkEndpoint (onAdapter "core.network-endpoint")
    (declaration.authorizationGrantBatch.isSome || declaration.hostAliasClaim.isSome) declaration.extensions.isEmpty
    (fun request => request.expectedDeclarationRevision + 1) bothDigests

/-- The artifact of a grant batch is the digest of the text `core.authorization@1`. -/
def validateGrantBatchDeclaration (authorizationDigest : String) : Bool :=
  validTyped declaration ⟨"authorization.policy", "grant-batch", "identity.change", "core.authorization"⟩
    declaration.authorizationGrantBatch (onAdapter "core.authorization") false declaration.extensions.isEmpty
    (fun request => request.expectedDeclarationRevision + 1)
    (fun request operation => operation.inputDigest == request.digest && operation.artifactDigest == authorizationDigest)

/-! ### Publications and shapes -/

def validPublication (kind operationID adapterID extension : String) : Bool :=
  if declaration.declarationType == kind || declaration.operations.any fun operation =>
      operation.operationType == kind || operation.adapterID == adapterID then
    match declaration.operations with
    | [operation] =>
      declaration.declarationType == kind && declaration.extensions.length == 2 &&
        !(declaration.ciJob.isSome || declaration.ciEnrollment.isSome || declaration.serviceDeployment.isSome ||
          declaration.hostingLifecycle.isSome || declaration.serviceRecovery.isSome || declaration.serviceImport.isSome ||
          declaration.networkEndpoint.isSome || declaration.authorizationGrantBatch.isSome) &&
        operation.sequence == 1 && operation.offsiteRunSpec == none && operation.operationID == operationID &&
        operation.adapterID == adapterID && operation.operationType == kind && !operation.idempotent &&
        decide (declaration.extensions.map ContractExtension.name).Nodup &&
        declaration.extensions.all fun held =>
          held.name == extension && held.valueDigest == operation.artifactDigest ||
            held.name == "x-credential-bindings" && held.valueDigest == operation.inputDigest
    | _ => false
  else true

def validManualPublicationDeclaration : Bool :=
  validPublication declaration "artifact.publish.manual" "manual-publication" "oci-registry-manual" "x-manual-publication"

def validCIPublicationDeclaration : Bool :=
  validPublication declaration "ci.artifact.publish" "ci-publication" "oci-registry" "x-ci-publication"

def validAliasClaimDeclarationShape (validators : Validators) (reason : String) : Bool :=
  if declaration.hostAliasClaim.isSome || declaration.declarationType == "host.alias-claim" ||
      (declaration.operations.any fun operation => operation.operationType == "host.alias.claim") ||
      declaration.extensions.any fun extension => extension.name == "x-host-alias-claim" then
    match declaration.hostAliasClaim, declaration.operations, declaration.extensions with
    | some claim, [operation], [extension] =>
      validators.validateAliasClaim claim && declaration.declarationType == "host.alias-claim" &&
        (if declaration.status = .draft then claim.expectedStateRevision + 1 == declaration.stateRevision
          else decide (claim.expectedStateRevision < declaration.stateRevision)) &&
        claim.recoveryEpoch == declaration.recoveryEpoch && operation.operationType == "host.alias.claim" &&
        operation.adapterID == "core.host-replacement" && operation.targetID == declaration.declarationID &&
        operation.idempotent && operation.inputDigest == claim.digest && operation.artifactDigest == claim.digest &&
        extension.name == "x-host-alias-claim" && extension.valueDigest == claim.digest && reason == claim.digest
    | _, _, _ => false
  else true

def validOffsiteDeclarationShape : Bool :=
  if declaration.declarationType != "backup.offsite" then
    declaration.operations.all fun operation => operation.offsiteRunSpec == none
  else
    match declaration.operations with
    | [operation] => operation.offsiteRunSpec.any fun spec =>
        operation.operationType == "backup.offsite.copy" && operation.adapterID == "labs.r2-offsite" &&
          !operation.idempotent && operation.targetID == spec.generationID &&
          spec.parentReferenceID != spec.repositoryKeyReferenceID && spec.parentReferenceID != spec.observerReferenceID &&
          spec.repositoryKeyReferenceID != spec.observerReferenceID
    | _ => false

/-- `maintenance.ValidateDeclaration`. -/
def validMaintenanceDeclaration : Bool :=
  if declaration.maintenance.isSome || declaration.declarationType == "maintenance.review" ||
      (declaration.operations.any fun operation =>
        operation.adapterID == "local.maintenance.unsupported" || operation.operationType == "maintenance.review") ||
      declaration.extensions.any fun extension => extension.name == "x-maintenance-record" then
    !(declaration.ciJob.isSome || declaration.ciEnrollment.isSome || declaration.hostingLifecycle.isSome ||
        declaration.serviceRecovery.isSome || declaration.serviceDeployment.isSome || declaration.serviceImport.isSome ||
        declaration.networkEndpoint.isSome || declaration.hostAliasClaim.isSome ||
        declaration.authorizationGrantBatch.isSome) &&
      match declaration.maintenance, declaration.operations, declaration.extensions with
      | some record, [operation], [extension] =>
        declaration.declarationType == "maintenance.review" && record.valid && !record.executionAvailable &&
          declaration.recoveryEpoch == record.recoveryEpoch && declaration.stateRevision == record.stateRevision + 1 &&
          operation.sequence == 1 && operation.operationID == "maintenance-review" &&
          operation.operationType == "maintenance.review" && operation.adapterID == "local.maintenance.unsupported" &&
          operation.targetID == declaration.declarationID && operation.idempotent &&
          operation.inputDigest == record.digest && operation.artifactDigest == record.digest &&
          extension.name == "x-maintenance-record" && extension.valueDigest == record.digest
      | _, _, _ => false
  else true

/-- `validDeclarationContent` without the comparison of the content digest. -/
def validDeclarationContent (validators : Validators) (authorizationDigest reason : String) : Bool :=
  (declaration.maintenance.all fun record => record.reasonDigest == reason) && validMaintenanceDeclaration declaration &&
    validManualPublicationDeclaration declaration && validCIPublicationDeclaration declaration &&
    validateCIJobDeclaration declaration && validateCIEnrollmentDeclaration declaration &&
    validateHostingLifecycleDeclaration declaration && validateServiceRecoveryDeclaration declaration &&
    validateServiceDeploymentDeclaration declaration && validateServiceImportDeclaration declaration &&
    validateNetworkEndpointDeclaration declaration && validateGrantBatchDeclaration declaration authorizationDigest &&
    validAliasClaimDeclarationShape declaration validators reason && validOffsiteDeclarationShape declaration

def maintenanceRecordOnly : Bool :=
  declaration.maintenance.isSome || declaration.declarationType == "maintenance.review" ||
    declaration.operations.any fun operation =>
      operation.adapterID == "local.maintenance.unsupported" || operation.operationType == "maintenance.review"

end Checks

/-! ### Consequences -/

theorem validTyped_some {declaration : Declaration} {shape : TypedShape} {request : TypedRequest}
    {named : DeclarationOperation → Bool} {foreign extended : Bool} {revision : TypedRequest → Int}
    {exact : TypedRequest → DeclarationOperation → Bool}
    (valid : validTyped declaration shape (some request) named foreign extended revision exact = true) :
    declaration.declarationType = shape.declarationType ∧ ∃ operation, declaration.operations = [operation] ∧
      operation.operationType = shape.operationType ∧ operation.adapterID = shape.adapterID := by
  simp only [validTyped, Option.isSome_some, Bool.true_or, ↓reduceIte] at valid
  cases listed : declaration.operations with
  | nil => simp [listed] at valid
  | cons operation rest =>
    cases rest with
    | nil =>
      simp only [listed, Bool.and_eq_true, beq_iff_eq] at valid
      have declared : declaration.declarationType = shape.declarationType := by tauto
      have carried : operation.operationType = shape.operationType ∧ operation.adapterID = shape.adapterID := by tauto
      exact ⟨declared, operation, rfl, carried⟩
    | cons second rest => simp [listed] at valid

end VskLabs.Planning

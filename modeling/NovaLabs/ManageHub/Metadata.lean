/-
  Token metadata of manage_hub (membership_token.rs, batch.rs), with its index by attribute, and
  its validation (common_types).
-/
import NovaLabs.ManageHub.Tokens

namespace ManageHub

open Lib Soroban

/-! ## Validation -/

/-- `validate_attribute`: keys of at most 50 bytes, texts of at most 200. -/
def validateAttribute (key : String) (value : MetadataValue) : Bool :=
  decide (key.utf8ByteSize ≤ 50) &&
    match value with
    | .text text => decide (text.utf8ByteSize ≤ 200)
    | _ => true

/-- `validate_metadata`: a description of at most 500 bytes, and at most 20 valid attributes. -/
def validateMetadata (metadata : TokenMetadata) : Bool :=
  decide (metadata.description.utf8ByteSize ≤ 500) && decide (metadata.attributes.len ≤ 20) &&
    metadata.attributes.entries.all fun e => validateAttribute e.1 e.2

/-! ## The index -/

/-- The query `query_tokens_by_attribute`. -/
def queryTokensByAttribute (s : State) (key : String) (value : MetadataValue) : List TokenId :=
  (s.get (.metadataIndex key value)).getD []

section
variable {me : Address} (env : HubEnv me)

def addToMetadataIndex (key : String) (value : MetadataValue) (tokenId : TokenId) : Fn Unit := do
  let tokenIds := (← load (.metadataIndex key value)).getD []
  runIf (tokenId ∉ tokenIds) (store (.metadataIndex key value) (tokenIds ++ [tokenId]))

/-- An entry without tokens is removed. -/
def removeFromMetadataIndex (key : String) (value : MetadataValue) (tokenId : TokenId) :
    Fn Unit := do
  let tokenIds ← load (.metadataIndex key value)
  runIf tokenIds.isSome
    (if (tokenIds.getD []).filter (· ≠ tokenId) = [] then remove (.metadataIndex key value)
    else store (.metadataIndex key value) ((tokenIds.getD []).filter (· ≠ tokenId)))

/-- The token leaves the index entries of all the attributes. -/
def removeAllFromIndex (attributes : Attributes) (tokenId : TokenId) : Fn Unit :=
  attributes.entries.forM fun e => removeFromMetadataIndex e.1 e.2 tokenId

def addAllToIndex (attributes : Attributes) (tokenId : TokenId) : Fn Unit :=
  attributes.entries.forM fun e => addToMetadataIndex e.1 e.2 tokenId

/-! ## Writing metadata -/

/-- The metadata of a token, which must exist. -/
def loadMetadata (tokenId : TokenId) : Fn TokenMetadata := do
  okOr (← load (.metadata tokenId)) .metadataNotFound

def appendMetadataHistory (tokenId : TokenId) (update : MetadataUpdate) : Fn Unit := do
  let history := (← load (.metadataHistory tokenId)).getD []
  store (.metadataHistory tokenId) (history ++ [update])

/-- Who must authorise the metadata: whoever the admin is, the check `is_owner` compares the owner
    with itself, so it is the owner; at ledger sequence 0, nobody. -/
def authMetadata (admin : Address) (token : MembershipToken) : Fn Unit :=
  runIf (env.sequence > 0)
    (if admin ≠ token.user ∧ token.user ≠ token.user then requireAuth env.toEnv admin
    else requireAuth env.toEnv token.user)

def internalSetTokenMetadata (admin : Address) (tokenId : TokenId) (description : String)
    (attributes : Attributes) : Fn Unit := do
  let token ← loadToken tokenId
  authMetadata env admin token
  let existing ← load (.metadata tokenId)
  let version ← checked 32 (existing.elim 1 (·.version + 1))
  failIf (¬ validateMetadata
    { description, attributes, version, lastUpdated := env.now, updatedBy := token.user })
    .metadataValidationFailed
  existing.elim (pure ()) (removeAllFromIndex ·.attributes tokenId)
  addAllToIndex attributes tokenId
  store (.metadata tokenId)
    { description, attributes, version, lastUpdated := env.now, updatedBy := token.user }
  appendMetadataHistory tokenId
    { version, timestamp := env.now, updatedBy := token.user, description, changes := attributes }

def setTokenMetadata (tokenId : TokenId) (description : String) (attributes : Attributes) :
    Fn Unit := do
  let admin ← getAdmin
  internalSetTokenMetadata env admin tokenId description attributes

def batchSetTokenMetadata (params : List BatchUpdateParams) : Fn Unit := do
  let admin ← getAdmin
  params.forM fun p => internalSetTokenMetadata env admin p.id p.description p.attributes

/-- `batch_update`. -/
def batchUpdate (params : List BatchUpdateParams) : Fn Unit := do
  validateBatchSize params.length
  batchSetTokenMetadata env params

/-- The attributes with one of the updates, in the index as well. -/
def updateAttribute (tokenId : TokenId) (attributes : Attributes) (e : String × MetadataValue) :
    Fn Attributes := do
  failIf (¬ validateAttribute e.1 e.2) .metadataValidationFailed
  (attributes.get e.1).elim (pure ()) (removeFromMetadataIndex e.1 · tokenId)
  addToMetadataIndex e.1 e.2 tokenId
  return attributes.set e.1 e.2

def updateTokenMetadata (tokenId : TokenId) (updates : Attributes) : Fn Unit := do
  let token ← loadToken tokenId
  let metadata ← loadMetadata tokenId
  requireAuth env.toEnv token.user
  let attributes ← updates.entries.foldlM (updateAttribute tokenId) metadata.attributes
  failIf (¬ validateMetadata { metadata with attributes }) .metadataValidationFailed
  let version ← checked 32 (metadata.version + 1)
  store (.metadata tokenId)
    { description := metadata.description
      attributes, version, lastUpdated := env.now, updatedBy := token.user }
  appendMetadataHistory tokenId
    { version, timestamp := env.now, updatedBy := token.user,
      description := metadata.description, changes := updates }

/-- The attributes without the key, in the index as well. -/
def removeAttribute (tokenId : TokenId) (attributes : Attributes) (key : String) :
    Fn Attributes := do
  (attributes.get key).elim (pure ()) (removeFromMetadataIndex key · tokenId)
  return attributes.remove key

/-- Neither validated nor added to the history. -/
def removeMetadataAttributes (tokenId : TokenId) (attributeKeys : List String) : Fn Unit := do
  let token ← loadToken tokenId
  let metadata ← loadMetadata tokenId
  requireAuth env.toEnv token.user
  let attributes ← attributeKeys.foldlM (removeAttribute tokenId) metadata.attributes
  let version ← checked 32 (metadata.version + 1)
  store (.metadata tokenId)
    { description := metadata.description
      attributes, version, lastUpdated := env.now, updatedBy := token.user }

end

/-! ## Footprints -/

section
set_option synthInstance.maxSize 1000000

variable {me admin : Address} {env : HubEnv me} {ks : List Kind} {id : TokenId} {key : String}
  {value : MetadataValue} {attributes : Attributes} {description : String}

instance [In .metadataIndex ks] : Only ks (addToMetadataIndex key value id) := by
  unfold addToMetadataIndex; infer_instance

instance [In .metadataIndex ks] : Only ks (removeFromMetadataIndex key value id) := by
  unfold removeFromMetadataIndex; infer_instance

instance [In .metadataIndex ks] : Only ks (addAllToIndex attributes id) := by
  unfold addAllToIndex; infer_instance

instance [In .metadataIndex ks] : Only ks (removeAllFromIndex attributes id) := by
  unfold removeAllFromIndex; infer_instance

instance : Only ks (loadMetadata id) := by unfold loadMetadata; infer_instance

instance [In .metadataHistory ks] {update : MetadataUpdate} :
    Only ks (appendMetadataHistory id update) := by
  unfold appendMetadataHistory; infer_instance

instance {token : MembershipToken} : Only ks (authMetadata env admin token) := by
  unfold authMetadata; infer_instance

instance [In .metadata ks] [In .metadataIndex ks] [In .metadataHistory ks] :
    Only ks (internalSetTokenMetadata env admin id description attributes) := by
  unfold internalSetTokenMetadata; infer_instance

instance [In .metadata ks] [In .metadataIndex ks] [In .metadataHistory ks] :
    Only ks (setTokenMetadata env id description attributes) := by
  unfold setTokenMetadata; infer_instance

instance [In .metadata ks] [In .metadataIndex ks] [In .metadataHistory ks]
    {params : List BatchUpdateParams} : Only ks (batchUpdate env params) := by
  unfold batchUpdate batchSetTokenMetadata; infer_instance

instance [In .metadataIndex ks] {e : String × MetadataValue} :
    Only ks (updateAttribute id attributes e) := by
  unfold updateAttribute; infer_instance

instance [In .metadata ks] [In .metadataIndex ks] [In .metadataHistory ks] :
    Only ks (updateTokenMetadata env id attributes) := by
  unfold updateTokenMetadata; infer_instance

instance [In .metadataIndex ks] : Only ks (removeAttribute id attributes key) := by
  unfold removeAttribute; infer_instance

instance [In .metadata ks] [In .metadataIndex ks] {attributeKeys : List String} :
    Only ks (removeMetadataAttributes env id attributeKeys) := by
  unfold removeMetadataAttributes; infer_instance

end

end ManageHub

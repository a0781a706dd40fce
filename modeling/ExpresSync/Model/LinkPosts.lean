import ExpresSync.Foundation.ReadCommitted
import ExpresSync.Model.InlinePushes

/-!
# `POST /api/admin/tag/link`

The handler statement by statement, with its response.  The mappings are inserted in one
transaction, the one of the linked tag first; the errors of the others are caught one by one.  A
statement of PostgreSQL that fails aborts its transaction, caught or not.

After the transaction come the call of `ensureCustomerMetaTag`, an `UPDATE` of the linked row and
the pushes to StEvE.
-/

namespace ExpresSync

/-! ## Responses -/

/-- A request that is answered with an error. -/
inductive LinkPostRefusal where
  | missingFields
  | invalidTagType
  /-- StEvE has not got the tag and does not create it. -/
  | notCreated (ocppTagId : String)
  /-- A `ProvisionerError`. -/
  | provisionerError (code : ProvisionerErrorCode) (message : String)
  | failed
deriving DecidableEq

def LinkPostRefusal.status : LinkPostRefusal → ℕ
  | missingFields | invalidTagType => 400
  | notCreated _ => 502
  | provisionerError code _ => code.status
  | failed => 500

/-- The `error` of the response; of the 502 it is the beginning. -/
def LinkPostRefusal.error : LinkPostRefusal → String
  | missingFields => "Missing required fields (ocppTagId, ocppTagPk, lagoCustomerId)"
  | invalidTagType => "Invalid tag_type. Must be one of: ev_card, keytag, app, meta"
  | notCreated ocppTagId =>
      "Tag " ++ ocppTagId ++ " does not exist in StEvE and could not be created: "
  | provisionerError _ message => message
  | failed => "Failed to create mapping"

/-- What a 201 lists. -/
structure LinkCreated where
  parentMapping : UserMapping
  childMappings : List UserMapping
deriving DecidableEq

/-- `totalCreated` -/
def LinkCreated.totalCreated (created : LinkCreated) : ℕ := 1 + created.childMappings.length

/-- All mappings that are listed. -/
def LinkCreated.all (created : LinkCreated) : List UserMapping :=
  created.parentMapping :: created.childMappings

structure LinkOutcome where
  world : TagWorld
  /-- The transaction has been committed. -/
  committed : Bool
  response : Except LinkPostRefusal LinkCreated

/-! ## The transaction -/

/-- What the database does for a request. -/
structure LinkDatabase where
  /-- The connection lasts until the `COMMIT` is answered. -/
  commits : Bool
  /-- `db.transaction` throws when the `COMMIT` has rolled back. -/
  reportsRollback : Bool
  /-- The `UPDATE` after the transaction is carried out. -/
  updatesParent : Bool

/-- The `INSERT` of a mapping. -/
def PushEnv.insertMapping (env : PushEnv) (row : UserMapping) : SqlStatement TagWorld UserMapping :=
  fun w =>
    if w.mappings.HasPk row.steveOcppTagPk ∨ ¬env.Admits w.mappings row then none
    else some (w.insertMapping row, { row with id := w.mappings.table.next })

/-- A rollback leaves the sequence of the ids where the transaction has put it. -/
def UserMappingTable.skipIds (mappings : UserMappingTable) (count : ℕ) : UserMappingTable where
  table :=
    { rows := mappings.table.rows
      next := mappings.table.next + count
      key_lt := fun m hm => Nat.lt_add_right count (mappings.table.key_lt m hm)
      nodup := mappings.table.nodup }
  nodup_pk := mappings.nodup_pk

namespace TagWorld

variable (w : TagWorld) (env : LinkPostEnv) (db : LinkDatabase) (request : LinkPost)

def skipIds (count : ℕ) : TagWorld where
  tags := w.tags
  mappings := w.mappings.skipIds count
  numbered := w.numbered

/-- The inserts of the mappings below, each in a `try` of its own. -/
def insertChildren (tagType : TagType) (userId : String) :
    List (SqlStatement TagWorld UserMapping) :=
  (getAllChildTags request.ocppTagId w.tags.table.rows).map fun childTag =>
    env.insertMapping (request.childRow tagType userId childTag)

/-- The callback of `db.transaction`, with the tag listed in the world `found`. -/
def linkBody (tagType : TagType) (found : TagWorld) (effectiveTagPk : ℕ) :
    Except LinkPostRefusal (SqlTransaction TagWorld × LinkCreated) :=
  match env.resolveOrCreateCustomerAccount (some request.lagoCustomerId) with
  | .error (.rejected code message) => .error (.provisionerError code message)
  | .error .database => .error .failed
  | .ok userId =>
      let parentRow := request.parentRow tagType userId effectiveTagPk w.tags.table.rows
      match (SqlTransaction.running found).exec (env.insertMapping parentRow) with
      -- The error of this insert is not caught.
      | (_, none) => .error .failed
      | (t, some parentMapping) =>
          let (t, childMappings) := t.catchEach (w.insertChildren env request tagType userId)
          .ok (t, ⟨parentMapping, childMappings⟩)

/-! ## The handler -/

/-- What comes after the transaction. -/
def finishLink (created : LinkCreated) : TagWorld × Except LinkPostRefusal LinkCreated :=
  if startsWith request.ocppTagId "OCPP-" then
    (w.push env.faults env.timestamp created.all, .ok created)
  else
    let (ensured, desiredParentIdTag) := w.ensureParent env request
    if db.updatesParent then
      let updated := ensured.setParent created.parentMapping.id desiredParentIdTag
      let parentMapping :=
        (updated.mappings.table.get? created.parentMapping.id).getD created.parentMapping
      let created := { created with parentMapping }
      (updated.push env.faults env.timestamp created.all, .ok created)
    else (ensured, .error .failed)

/-- The transaction, and what comes after it. -/
def linkFound (tagType : TagType) (found : TagWorld) (effectiveTagPk : ℕ) : LinkOutcome :=
  match w.linkBody env request tagType found effectiveTagPk with
  | .error refusal => ⟨found, false, .error refusal⟩
  | .ok (t, created) =>
      if db.commits then
        match t with
        | .running linked =>
            let (world, response) := linked.finishLink env db request created
            ⟨world, true, response⟩
        | .aborted =>
            if db.reportsRollback then ⟨found, false, .error .failed⟩
            else
              let (world, response) :=
                (found.skipIds (created.totalCreated + 1)).finishLink env db request created
              ⟨world, false, response⟩
      else ⟨found, false, .error .failed⟩

/-- The handler: what it checks and looks up, and then the transaction. -/
def postLinkRequest : LinkOutcome :=
  if request.IsComplete then
    match request.rowType with
    | none => ⟨w, false, .error .invalidTagType⟩
    | some tagType =>
        if env.listsAll then
          match w.effectiveTag env request with
          | none => ⟨w, false, .error (.notCreated request.ocppTagId)⟩
          | some (found, effectiveTagPk) => w.linkFound env db request tagType found effectiveTagPk
        else ⟨w, false, .error .failed⟩
  else ⟨w, false, .error .missingFields⟩

end TagWorld

end ExpresSync

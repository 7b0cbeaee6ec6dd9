import BitDemon.DwServer.Numerals
import BitDemon.DwServer.PrivateFiles
import BitDemon.DwServer.Profile
import BitDemon.DwServer.StreamRows

set_option autoImplicit false

/-!
# Users with large ids

A token admits every id of 64 bits. A statement takes half of them, and most of
the services expect their statements to succeed.
-/

namespace BitDemon

open Machine

namespace DwAuth

theorem stripPrefix_ofList (lead text : List Char) :
    stripPrefix lead (String.ofList (lead ++ text)).toList = some text := by
  simp [stripPrefix]

theorem splitOnce_append {name : List Char} (value : List Char) (single : '=' ∉ name) :
    splitOnce (name ++ '=' :: value) = some (name, value) := by
  have letters : ∀ c ∈ name, decide (c ≠ '=') = true := by
    intro c member
    exact decide_eq_true fun same => single (same ▸ member)
  rw [splitOnce, List.dropWhile_append_of_pos letters, List.takeWhile_append_of_pos letters]
  simp

theorem noSeparator_of_any {field : List Char} (without : field.any (· == ';') = false) :
    ∀ c ∈ field, (c == ';') = false :=
  fun c member => Bool.eq_false_of_not_eq_true (List.any_eq_false.mp without c member)

def xuidField (userId : UInt64) : List Char := "xuid".toList ++ '=' :: Nat.toDigits 16 userId.toNat

def gamertagField : List Char := "gamertag".toList ++ ['=', 'a']

def tokenFor (userId : UInt64) : String :=
  String.ofList ("IW4x1.0 ".toList ++ (xuidField userId ++ ';' :: gamertagField))

theorem take_xuidField (identity : Identity) (userId : UInt64) :
    identity.take (xuidField userId) = { identity with xuid := some userId } := by
  rw [Identity.take, xuidField, splitOnce_append _ (by decide)]
  dsimp only
  rw [if_pos rfl, parseUnsigned_toDigits (by decide) (by decide) userId.toNat_lt, Option.map_some,
    UInt64.ofNat_toNat]

theorem take_gamertagField (identity : Identity) :
    identity.take gamertagField = { identity with gamertag := some "a" } := by
  have split : splitOnce gamertagField = some ("gamertag".toList, ['a']) :=
    splitOnce_append _ (by decide)
  have letter : String.ofList ['a'] = "a" := by decide +kernel
  have other : "gamertag".toList ≠ "xuid".toList := by decide
  have given : "gamertag".toList = "gamertag".toList ∧ ['a'] ≠ [] := by decide
  rw [Identity.take, split]
  dsimp only
  rw [if_neg other, if_pos given, letter]

theorem identify_tokenFor (userId : UInt64) :
    identify (some (tokenFor userId)) = some (userId, "a") := by
  have noSeparator : ∀ c ∈ xuidField userId, (c == ';') = false := by
    intro c member
    rcases List.mem_append.mp member with name | digit
    next => exact noSeparator_of_any (by decide) c name
    next =>
      rcases List.mem_cons.mp digit with rfl | digit
      next => rfl
      next =>
        have none : ';' ∉ Nat.toDigits 16 userId.toNat :=
          not_mem_toDigits (by decide) (by decide) _ (by decide)
        exact beq_eq_false_iff_ne.mpr fun same => none (same ▸ digit)
  have fields : (xuidField userId ++ ';' :: gamertagField).splitOn ';'
      = [xuidField userId, gamertagField] := by
    rw [List.splitOn_eq_splitOnP, List.splitOnP_append_cons_of_forall_mem noSeparator ';' rfl]
    rw [List.splitOnP_eq_singleton (noSeparator_of_any (by decide))]
  have stripped : stripPrefix "IW4x1.0 ".toList (tokenFor userId).toList
      = some (xuidField userId ++ ';' :: gamertagField) := stripPrefix_ofList _ _
  simp only [identify, stripped, fields, List.foldl_cons, List.foldl_nil, take_xuidField,
    take_gamertagField, Option.bind_eq_bind, Option.bind_some, Option.pure_def]

end DwAuth

namespace UserIds

open DwUserStorageService (maxUserFileSize)

structure Databases where
  storage : StorageDb
  profile : ProfileDb
  content : ContentServer

inductive Request where
  | createStorageFile (ownerId : UInt64) (filename : String) (visibility : FileVisibility)
    (fileData : List UInt8)
  | setPublicProfile (publicProfileData : List UInt8)
  | setPrivateProfile (privateProfileData : List UInt8)
  | deleteProfile
  | requestStreamUpload (requestData : StreamCreationRequest)
  | requestStreamDeletion (slotId : UInt16)
  | finishStreamUpload (uploadedFile : UploadedStream)

def outcome (service : DwUserContentStreamingService) (sqlite : Sqlite) (session : BdSession)
    (dbs : Databases) : Request → Except Fault Unit
  | .createStorageFile ownerId filename visibility fileData =>
    (exec (DwUserStorageService.createStorageFile session ownerId filename visibility fileData)
      dbs.storage).1.map fun _ => ()
  | .setPublicProfile publicProfileData =>
    (exec (DwProfileService.setPublicProfile session publicProfileData) dbs.profile).1.map
      fun _ => ()
  | .setPrivateProfile privateProfileData =>
    (exec (DwProfileService.setPrivateProfile session privateProfileData) dbs.profile).1.map
      fun _ => ()
  | .deleteProfile =>
    (exec (DwProfileService.deleteProfile sqlite session) dbs.profile).1.map fun _ => ()
  | .requestStreamUpload requestData =>
    (exec (service.requestStreamUpload session requestData) dbs.content).1.map fun _ => ()
  | .requestStreamDeletion slotId =>
    (exec (service.requestStreamDeletion session slotId) dbs.content).1.map fun _ => ()
  | .finishStreamUpload uploadedFile =>
    (exec (DwUserContentStreamingService.finishStreamUpload session uploadedFile)
      dbs.content).1.map fun _ => ()

open DwUserContentStreamingService in
/-- The request is refused before an `expect`, or the statement there runs: the numbers it binds fit. -/
def NothingUnbound (sqlite : Sqlite) (user : SessionAuthentication) (dbs : Databases) :
    Request → Prop
  | .createStorageFile ownerId filename _ fileData =>
    user.userId = ownerId → filename.utf8ByteSize ≤ DwUserStorageService.maxFilenameLength →
      fileData.length ≤ DwUserStorageService.maxUserFileSize → Sqlite.bindable user.userId = true
  | .setPublicProfile _ | .setPrivateProfile _ => Sqlite.bindable user.userId = true
  | .deleteProfile => sqlite.acceptsBareAlias = true ∧ Sqlite.bindable user.userId = true
  | .requestStreamUpload requestData => WellSized requestData → Sqlite.bindable user.userId = true
  | .requestStreamDeletion _ => True
  -- a user with a large id has no stream to finish
  | .finishStreamUpload uploadedFile =>
    uploadedFile.metadata.length ≤ maxMetadataSize → Sqlite.bindable user.userId = true →
      (openRow user uploadedFile.slot dbs.content.userStream).isSome = true →
      uploadedFile.tags.all tagBinds = true

variable {service : DwUserContentStreamingService} {sqlite : Sqlite} {session : BdSession}
  {user : SessionAuthentication}

theorem updateUserProfile_ok_iff (profileType : ProfileType) (data : List UInt8) (db : ProfileDb) :
    (exec (DwProfileService.updateUserProfile user profileType data) db).1 = .ok ()
      ↔ Sqlite.bindable user.userId = true := by
  rw [DwProfileService.updateUserProfile, exec_bind_ok _ (exec_get db)]
  cases Sqlite.bindable user.userId with
  | true =>
    simp only [if_true]
    split
    next => simp
    next => simp
  | false => exact ⟨nofun, nofun⟩

theorem profile_ends_iff (authenticated : session.authentication = some user)
    (profileType : ProfileType) (data : List UInt8) (db : ProfileDb) :
    (exec (do
        let authentication ← unwrap session.authentication
        DwProfileService.updateUserProfile authentication profileType data
        pure (Except.ok () : DwProfileService.Answered Unit)) db).1.map (fun _ => ()) = .ok ()
      ↔ Sqlite.bindable user.userId = true := by
  rw [authenticated, unwrap_some, pure_bind, exec_bind, ← updateUserProfile_ok_iff profileType data db]
  rcases exec (DwProfileService.updateUserProfile user profileType data) db with ⟨_ | _, after⟩
  next => exact ⟨nofun, nofun⟩
  next => exact ⟨fun _ => rfl, fun _ => rfl⟩

theorem deleteProfile_ends_iff (authenticated : session.authentication = some user)
    (db : ProfileDb) :
    (exec (DwProfileService.deleteProfile sqlite session) db).1.map (fun _ => ()) = .ok ()
      ↔ sqlite.acceptsBareAlias = true ∧ Sqlite.bindable user.userId = true := by
  rw [DwProfileService.deleteProfile, authenticated, unwrap_some, pure_bind, ← Bool.and_eq_true]
  cases sqlite.acceptsBareAlias && Sqlite.bindable user.userId with
  | true => exact ⟨fun _ => rfl, fun _ => rfl⟩
  | false => exact ⟨nofun, nofun⟩

theorem create_ends_iff (authenticated : session.authentication = some user) (ownerId : UInt64)
    (filename : String) (visibility : FileVisibility) (fileData : List UInt8) (db : StorageDb) :
    (exec (DwUserStorageService.createStorageFile session ownerId filename visibility fileData)
        db).1.map (fun _ => ()) = .ok ()
      ↔ (user.userId = ownerId → filename.utf8ByteSize ≤ DwUserStorageService.maxFilenameLength →
          fileData.length ≤ DwUserStorageService.maxUserFileSize →
          Sqlite.bindable user.userId = true) := by
  rw [DwUserStorageService.createStorageFile, authenticated, unwrap_some, pure_bind]
  split
  next other => exact ⟨fun _ owns => absurd owns other, fun _ => rfl⟩
  next owns =>
    obtain rfl := not_not.mp owns
    split
    next long => exact ⟨fun _ _ short => absurd short (by omega), fun _ => rfl⟩
    next short =>
      split
      next large => exact ⟨fun _ _ _ small => absurd small (by omega), fun _ => rfl⟩
      next small =>
        have bound : (user.userId = user.userId →
            filename.utf8ByteSize ≤ DwUserStorageService.maxFilenameLength →
            fileData.length ≤ DwUserStorageService.maxUserFileSize →
            Sqlite.bindable user.userId = true) ↔ Sqlite.bindable user.userId = true :=
          ⟨fun all => all rfl (by omega) (by omega), fun fits _ _ _ => fits⟩
        rw [bound, exec_bind_ok _ (exec_get db)]
        cases fits : Sqlite.bindable user.userId with
        | true =>
          have wrote := DwUserStorageService.exec_storeFile
            ⟨user.userId, user.title.toU32, filename⟩ visibility fileData db fits
          rw [exec_bind_ok _ wrote]
          exact ⟨fun _ => rfl, fun _ => rfl⟩
        | false =>
          rw [DwUserStorageService.storeFile, fits]
          exact iff_of_false (fun ended => by cases ended) Bool.false_ne_true

open DwUserContentStreamingService

theorem upload_ends_iff (authenticated : session.authentication = some user)
    (requestData : StreamCreationRequest) (s : ContentServer) :
    (exec (service.requestStreamUpload session requestData) s).1.map (fun _ => ()) = .ok ()
      ↔ (WellSized requestData → Sqlite.bindable user.userId = true) := by
  rcases @upload_cases service session user authenticated requestData s with
    ⟨_, bound, _, url, userInfo, ran⟩ | ⟨sized, unbound, ran⟩ | ⟨_, fits, error, ran⟩
  next =>
    rw [ran]
    exact ⟨fun _ _ => bound, fun _ => rfl⟩
  next =>
    rw [ran]
    refine ⟨nofun, fun fits => ?_⟩
    cases unbound.symm.trans (fits sized)
  next =>
    rw [ran]
    exact ⟨fun _ => fits, fun _ => rfl⟩

theorem deletion_ends (authenticated : session.authentication = some user) (slotId : UInt16)
    (s : ContentServer) :
    (exec (service.requestStreamDeletion session slotId) s).1.map (fun _ => ()) = .ok () := by
  rw [requestStreamDeletion, authenticated, unwrap_some, pure_bind, getStreamIdForSlot, exec_bind,
    exec_bind_ok _ (exec_get s)]
  dsimp only [exec_pure]
  split
  next streamId found =>
    obtain ⟨url, built⟩ := @exec_buildStreamUrl service user.userId user.title streamId .delete s
    rw [exec_bind_ok _ built]
    rfl
  next missing => rfl

theorem finish_ends_iff (authenticated : session.authentication = some user)
    (uploadedFile : UploadedStream) (s : ContentServer) :
    (exec (finishStreamUpload session uploadedFile) s).1.map (fun _ => ()) = .ok ()
      ↔ (uploadedFile.metadata.length ≤ maxMetadataSize → Sqlite.bindable user.userId = true →
          (openRow user uploadedFile.slot s.userStream).isSome = true →
          uploadedFile.tags.all tagBinds = true) := by
  rcases finish_cases authenticated uploadedFile s with
    ⟨small, bound, row, found, ran⟩ | ⟨refused, error, ran⟩
  next =>
    rw [ran]
    cases bind : uploadedFile.tags.all tagBinds with
    | true => exact ⟨fun _ _ _ _ => rfl, fun _ => rfl⟩
    | false =>
      refine ⟨nofun, fun all => ?_⟩
      cases all small bound (by rw [found]; rfl)
  next =>
    rw [ran]
    refine ⟨fun _ small bound found => ?_, fun _ => rfl⟩
    exact absurd ⟨small, bound, found⟩ refused

/--
A request of a user ends in an answer exactly if it is refused before an
`expect` or the statement there runs.
-/
theorem ends_iff (service : DwUserContentStreamingService) (sqlite : Sqlite) (session : BdSession)
    (user : SessionAuthentication) (dbs : Databases) (request : Request)
    (authenticated : session.authentication = some user) :
    outcome service sqlite session dbs request = .ok () ↔ NothingUnbound sqlite user dbs request := by
  cases request with
  | createStorageFile ownerId filename visibility fileData =>
    exact create_ends_iff authenticated ownerId filename visibility fileData dbs.storage
  | setPublicProfile data => exact profile_ends_iff authenticated .publicProfile data dbs.profile
  | setPrivateProfile data => exact profile_ends_iff authenticated .privateProfile data dbs.profile
  | deleteProfile => exact deleteProfile_ends_iff authenticated dbs.profile
  | requestStreamUpload requestData => exact upload_ends_iff authenticated requestData dbs.content
  | requestStreamDeletion slotId =>
    exact ⟨fun _ => trivial, fun _ => deletion_ends authenticated slotId dbs.content⟩
  | finishStreamUpload uploadedFile => exact finish_ends_iff authenticated uploadedFile dbs.content

def emptyDatabases : Databases :=
  { storage := ⟨[], 0⟩, profile := ⟨[], 0⟩, content := .new }

def contentService : DwUserContentStreamingService := ⟨"localhost", 8080, ⟨fun _ => "token", 60⟩⟩

def userSession (userId : UInt64) : BdSession := ⟨1, some ⟨userId, "a", [], .t6Pc⟩, none⟩

theorem ends_small : outcome contentService ⟨false⟩ (userSession 7) emptyDatabases
    (.createStorageFile 7 "stats" .visiblePrivate [1]) = .ok () :=
  (ends_iff contentService ⟨false⟩ (userSession 7) ⟨7, "a", [], .t6Pc⟩ emptyDatabases
    (.createStorageFile 7 "stats" .visiblePrivate [1]) rfl).mpr fun _ _ _ => by decide

def largeId : UInt64 := 0x8000000000000000

theorem large_id_panics :
    DwAuth.identify (some (DwAuth.tokenFor largeId)) = some (largeId, "a")
      ∧ ∀ request ∈ [Request.createStorageFile largeId "stats" .visiblePrivate [1],
          .setPublicProfile [1], .setPrivateProfile [1], .deleteProfile,
          .requestStreamUpload ⟨"stats", 0, 1, 0, [], ""⟩],
        outcome contentService ⟨true⟩ (userSession largeId) emptyDatabases request
          = .error (.panic .unwrapOnError) := by
  refine ⟨DwAuth.identify_tokenFor largeId, ?_⟩
  simp only [List.forall_mem_cons]
  exact ⟨rfl, rfl, rfl, rfl, rfl, nofun⟩

end UserIds

end BitDemon

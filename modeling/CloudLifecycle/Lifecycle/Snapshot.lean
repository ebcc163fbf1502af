import CloudLifecycle.Lifecycle.Manager

/-!
# Verbs on snapshots and stemcells

A snapshot is taken of a disk that exists.  A stemcell is an image that the backend has already,
given by its id or found by its name.  Deleting what is absent succeeds.
-/

set_option autoImplicit false

namespace CloudLifecycle

/-- What a request says about a stemcell. -/
structure StemcellProperties where
  name : String
  version : Option String
  /-- An image to use as it is. -/
  imageId : Option String
  extra : Dict Json
deriving DecidableEq

def StemcellProperties.decoder : Decoder StemcellProperties :=
  Decoder.withExtras "StemcellProperties"
    (StemcellProperties.mk <$> Fields.withDefault "name" Decoder.text ""
      <*> Fields.maybe "version" Decoder.text
      <*> Fields.maybe "image_id" Decoder.text)

namespace Manager

variable (m : Manager)

/-- Takes a snapshot of a disk. -/
def snapshotDisk (diskId : ResourceId) : Verb ResourceId := do
  discard (m.requireVolume diskId)
  let name := "snapshot-" ++ (← Task.freshName)
  let id ← m.call (.createSnapshot diskId name)
  m.waitSnapshot id [.available]
  return id

/-- Deletes a snapshot; an absent one is passed over. -/
def deleteSnapshot (id : ResourceId) : Verb Unit := do
  match ← m.describeSnapshot id with
  | none => return ()
  | some snapshot =>
    if snapshot.state.isGone then return ()
    m.call (.deleteSnapshot id)
    m.waitSnapshot id [.ceased, .deleted, .noExist]

/-- The image of a stemcell. -/
def createStemcell (properties : StemcellProperties) : Verb ResourceId := do
  match properties.imageId with
  | some id => return (← m.requireImage ⟨id⟩).id
  | none =>
    if properties.name.isEmpty then
      throw (.invalidArgument "stemcell properties must contain a name or image_id")
    match ← m.call (.findImageByName properties.name) with
    | image :: _ => return image.id
    | [] => throw (.notFound .image properties.name)

/-- Deletes the image of a stemcell; an absent one is passed over. -/
def deleteStemcell (id : ResourceId) : Verb Unit := do
  match ← m.describeImage id with
  | none => return ()
  | some _ => m.call (.deleteImage id)

end Manager

end CloudLifecycle

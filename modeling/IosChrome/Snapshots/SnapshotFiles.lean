import Mathlib.Data.List.Basic

/-!
# Snapshot files

Where the snapshots of a tab are on disk: a directory, and in it a file for the
color image and one for the grey one. Tabs are identified by UUIDs, so no two
tabs have a file in common (`imageName_inj`); with arbitrary strings the grey
file of one would be the color file of another.
-/

namespace IosChrome.Snapshots

structure FilePath where
  directory : String
  name : String
  deriving DecidableEq

inductive ImageType where
  | IMAGE_TYPE_COLOR
  | IMAGE_TYPE_GREYSCALE
  deriving DecidableEq

inductive ImageScale where
  | IMAGE_SCALE_1X
  | IMAGE_SCALE_2X
  | IMAGE_SCALE_3X
  deriving DecidableEq

def kImageTypes : List ImageType := [.IMAGE_TYPE_COLOR, .IMAGE_TYPE_GREYSCALE]

/-- A tab's identifier, an `NSUUID` string. -/
structure SnapshotID where
  identifier : String
  isUUID : identifier.length = 36
  deriving DecidableEq

theorem length_tabUUID : "3F2504E0-4F89-11D3-9A0C-0305E82C3301".length = 36 := by decide +kernel

def ImageType.suffix : ImageType → String
  | .IMAGE_TYPE_COLOR => ""
  | .IMAGE_TYPE_GREYSCALE => "Grey"

def ImageScale.suffix : ImageScale → String
  | .IMAGE_SCALE_1X => ""
  | .IMAGE_SCALE_2X => "@2x"
  | .IMAGE_SCALE_3X => "@3x"

def imageName (snapshotID : SnapshotID) (imageType : ImageType) (imageScale : ImageScale) :
    String :=
  snapshotID.identifier ++ imageType.suffix ++ imageScale.suffix ++ ".jpg"

/-- `ImagePath`. -/
def imagePath (snapshotID : SnapshotID) (imageType : ImageType) (imageScale : ImageScale)
    (cacheDirectory : String) : FilePath :=
  ⟨cacheDirectory, imageName snapshotID imageType imageScale⟩

theorem SnapshotID.length_toList (id : SnapshotID) : id.identifier.toList.length = 36 := by
  rw [String.length_toList]
  exact id.isUUID

theorem SnapshotID.eq_of_toList {id id' : SnapshotID}
    (h : id.identifier.toList = id'.identifier.toList) : id = id' := by
  obtain ⟨identifier, _⟩ := id
  obtain ⟨identifier', _⟩ := id'
  obtain rfl : identifier = identifier' := String.toList_inj.1 h
  rfl

/-- **A file is of one snapshot, of one type.** -/
theorem imageName_inj {id id' : SnapshotID} {imageType imageType' : ImageType}
    {scale : ImageScale} (h : imageName id imageType scale = imageName id' imageType' scale) :
    id = id' ∧ imageType = imageType' := by
  have hlist := congrArg String.toList h
  unfold imageName at hlist
  simp only [String.toList_append, List.append_assoc] at hlist
  have hlength : id.identifier.toList.length = id'.identifier.toList.length := by
    rw [id.length_toList, id'.length_toList]
  obtain ⟨hid, hrest⟩ := List.append_inj hlist hlength
  refine ⟨SnapshotID.eq_of_toList hid, ?_⟩
  -- only the grey suffix takes room before the scale
  have hsize := congrArg List.length hrest
  simp only [List.length_append] at hsize
  cases imageType <;> cases imageType' <;> first
    | rfl
    | (simp only [ImageType.suffix] at hsize
       simp at hsize)

theorem imagePath_ne {id id' : SnapshotID} (hne : id ≠ id') (imageType imageType' : ImageType)
    (scale : ImageScale) (directory directory' : String) :
    imagePath id imageType scale directory ≠ imagePath id' imageType' scale directory' :=
  fun h => hne (imageName_inj (FilePath.mk.inj h).2).1

end IosChrome.Snapshots

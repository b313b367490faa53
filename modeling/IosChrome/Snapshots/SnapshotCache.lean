import IosChrome.Lib.Machine
import IosChrome.Lib.MRUCache
import IosChrome.Snapshots.SnapshotFiles

/-!
# The snapshot cache in memory and on disk

`SnapshotCache` keeps the latest snapshots in memory and all of them on disk.
The disk is written, cleaned and read by background tasks, which run in the
order they were posted; a read replies to the main thread, and its reply puts
the image it found into memory.

Once nothing is outstanding, a retrieval should bring what was last requested
for the snapshot: the image set last, or none after a removal (`AtRest`). A
reply that arrives after a write or a removal of its snapshot brings back what
was there before, and the memory then hides the disk (`staleReply_shown`). In
the runs without such a reply the contract is kept (`atRest_of_repliesCurrent`):
the memory agrees with what the disk will be once the posted tasks have run.
-/

namespace IosChrome.Snapshots

open IosChrome.Lib

def kLRUCacheMaxCapacity : Nat := 6

/-- `SnapshotLRUCache`: a value may be nil. -/
abbrev SnapshotLRUCache (Image : Type) := MRUCache SnapshotID (Option Image)

section

variable {Image : Type}

namespace SnapshotLRUCache

def initWithCacheSize (maxCacheSize : Nat) : SnapshotLRUCache Image := ⟨maxCacheSize, []⟩

/-- The object and the cache after its use. -/
def objectForKey (cache : SnapshotLRUCache Image) (key : SnapshotID) :
    Option Image × SnapshotLRUCache Image :=
  ((cache.get key).1.join, (cache.get key).2)

def setObject (cache : SnapshotLRUCache Image) (value : Option Image) (key : SnapshotID) :
    SnapshotLRUCache Image :=
  cache.put key value

def removeObjectForKey (cache : SnapshotLRUCache Image) (key : SnapshotID) :
    SnapshotLRUCache Image :=
  cache.erase key

def removeAllObjects (cache : SnapshotLRUCache Image) : SnapshotLRUCache Image := cache.clear

end SnapshotLRUCache

/-! ## The disk and its tasks -/

abbrev Disk (Image : Type) := FilePath → Option Image

inductive DiskTask (Image : Type) where
  | writeImageToDisk (image : Image) (path : FilePath)
  | deleteImageWithSnapshotID (snapshotID : SnapshotID)
  | removeAllImages
  | readImageForSnapshotIDFromDisk (snapshotID : SnapshotID)

/-- The members of `SnapshotCache` for color snapshots. -/
structure SnapshotCache (Image : Type) where
  lruCache : SnapshotLRUCache Image
  pinnedIDs : List SnapshotID
  snapshotsScale : ImageScale
  cacheDirectory : String

/-- An image that a callback receives. -/
structure Retrieved (Image : Type) where
  snapshotID : SnapshotID
  image : Option Image
  deriving DecidableEq

/-- The cache, the disk, the tasks posted to the background and the replies
posted back. `callbacks` is what the callers received, and `requested` what was
last asked to be kept of each snapshot, an image or none. -/
structure SnapshotSystem (Image : Type) where
  cache : SnapshotCache Image
  disk : Disk Image
  tasks : List (DiskTask Image)
  replies : List (Retrieved Image)
  callbacks : List (Retrieved Image)
  requested : SnapshotID → Option (Option Image)

namespace SnapshotCache

def colorPath (cache : SnapshotCache Image) (snapshotID : SnapshotID) : FilePath :=
  imagePath snapshotID .IMAGE_TYPE_COLOR cache.snapshotsScale cache.cacheDirectory

/-- What a task does to the disk. -/
def runTask (cache : SnapshotCache Image) (disk : Disk Image) : DiskTask Image → Disk Image
  | .writeImageToDisk image path => fun file => if file = path then some image else disk file
  | .deleteImageWithSnapshotID snapshotID => fun file =>
    if ∃ imageType ∈ kImageTypes,
        file = imagePath snapshotID imageType cache.snapshotsScale cache.cacheDirectory then none
    else disk file
  | .removeAllImages => fun file =>
    if file.directory = cache.cacheDirectory then none else disk file
  | .readImageForSnapshotIDFromDisk _ => disk

end SnapshotCache

namespace SnapshotSystem

variable (s : SnapshotSystem Image)

def setLruCache (lruCache : SnapshotLRUCache Image) : SnapshotSystem Image :=
  { s with cache := { s.cache with lruCache } }

def post (task : DiskTask Image) : SnapshotSystem Image := { s with tasks := s.tasks ++ [task] }

def callback (snapshotID : SnapshotID) (image : Option Image) : SnapshotSystem Image :=
  { s with callbacks := s.callbacks ++ [⟨snapshotID, image⟩] }

def request (image : Option Image) (snapshotID : SnapshotID) : SnapshotSystem Image :=
  { s with requested := fun id => if id = snapshotID then some image else s.requested id }

/-! ## The public methods -/

def retrieveImageForSnapshotID (snapshotID : SnapshotID) : SnapshotSystem Image :=
  let found := SnapshotLRUCache.objectForKey s.cache.lruCache snapshotID
  match found.1 with
  | some image => (s.setLruCache found.2).callback snapshotID (some image)
  | none => (s.setLruCache found.2).post (.readImageForSnapshotIDFromDisk snapshotID)

def setImage (image : Image) (snapshotID : SnapshotID) : SnapshotSystem Image :=
  ((s.setLruCache (SnapshotLRUCache.setObject s.cache.lruCache (some image) snapshotID)).post
    (.writeImageToDisk image (s.cache.colorPath snapshotID))).request (some image) snapshotID

def removeImageWithSnapshotID (snapshotID : SnapshotID) : SnapshotSystem Image :=
  ((s.setLruCache (SnapshotLRUCache.removeObjectForKey s.cache.lruCache snapshotID)).post
    (.deleteImageWithSnapshotID snapshotID)).request none snapshotID

def removeAllImages : SnapshotSystem Image :=
  { (s.setLruCache (SnapshotLRUCache.removeAllObjects s.cache.lruCache)).post .removeAllImages with
    requested := fun _ => some none }

def setPinnedIDs (pinnedIDs : List SnapshotID) : SnapshotSystem Image :=
  { s with cache := { s.cache with pinnedIDs } }

/-- The `dictionary` of `handleLowMemory`: the pinned snapshots in memory. -/
def pinnedImages (lruCache : SnapshotLRUCache Image) :
    List SnapshotID → List (SnapshotID × Image)
  | [] => []
  | snapshotID :: rest =>
    let found := SnapshotLRUCache.objectForKey lruCache snapshotID
    match found.1 with
    | some image => (snapshotID, image) :: pinnedImages found.2 rest
    | none => pinnedImages found.2 rest

def handleLowMemory : SnapshotSystem Image :=
  let dictionary := pinnedImages s.cache.lruCache s.cache.pinnedIDs
  s.setLruCache (s.cache.pinnedIDs.foldl
    (fun lruCache snapshotID => SnapshotLRUCache.setObject lruCache
      ((Keyed.lookup Prod.fst dictionary snapshotID).map Prod.snd) snapshotID)
    (SnapshotLRUCache.removeAllObjects s.cache.lruCache))

def handleEnterBackground : SnapshotSystem Image :=
  s.setLruCache (SnapshotLRUCache.removeAllObjects s.cache.lruCache)

def handleBecomeActive : SnapshotSystem Image :=
  s.cache.pinnedIDs.foldl retrieveImageForSnapshotID s

/-! ## The background -/

/-- The first task posted runs; a read replies with the color image it finds. -/
def runFirstTask : SnapshotSystem Image :=
  match s.tasks with
  | [] => s
  | .readImageForSnapshotIDFromDisk snapshotID :: rest =>
    { s with
      tasks := rest
      replies := s.replies ++ [⟨snapshotID, s.disk (s.cache.colorPath snapshotID)⟩] }
  | task :: rest => { s with tasks := rest, disk := s.cache.runTask s.disk task }

/-- The reply of a read: its image, if any, goes to memory. -/
def receive (reply : Retrieved Image) : SnapshotSystem Image :=
  (match reply.image with
    | some image => s.setLruCache
        (SnapshotLRUCache.setObject s.cache.lruCache (some image) reply.snapshotID)
    | none => s).callback reply.snapshotID reply.image

def deliverFirstReply : SnapshotSystem Image :=
  match s.replies with
  | [] => s
  | reply :: rest => { s with replies := rest }.receive reply

end SnapshotSystem

end

inductive SnapshotCall (Image : Type) where
  | retrieveImageForSnapshotID (snapshotID : SnapshotID)
  | setImage (image : Image) (snapshotID : SnapshotID)
  | removeImageWithSnapshotID (snapshotID : SnapshotID)
  | removeAllImages
  | setPinnedIDs (pinnedIDs : List SnapshotID)
  | handleLowMemory
  | handleEnterBackground
  | handleBecomeActive
  | runFirstTask
  | deliverFirstReply

namespace SnapshotSystem

variable {Image : Type}

def step (s : SnapshotSystem Image) : SnapshotCall Image → SnapshotSystem Image
  | .retrieveImageForSnapshotID snapshotID => s.retrieveImageForSnapshotID snapshotID
  | .setImage image snapshotID => s.setImage image snapshotID
  | .removeImageWithSnapshotID snapshotID => s.removeImageWithSnapshotID snapshotID
  | .removeAllImages => s.removeAllImages
  | .setPinnedIDs pinnedIDs => s.setPinnedIDs pinnedIDs
  | .handleLowMemory => s.handleLowMemory
  | .handleEnterBackground => s.handleEnterBackground
  | .handleBecomeActive => s.handleBecomeActive
  | .runFirstTask => s.runFirstTask
  | .deliverFirstReply => s.deliverFirstReply

/-- A new cache over a directory with any files in it. -/
def Fresh (s : SnapshotSystem Image) : Prop :=
  s.cache.lruCache = SnapshotLRUCache.initWithCacheSize kLRUCacheMaxCapacity ∧
    s.tasks = [] ∧ s.replies = [] ∧ ∀ id, s.requested id = none

def machine (Image : Type) : Machine (SnapshotSystem Image) (SnapshotCall Image) :=
  ⟨Fresh, fun _ _ => True, step⟩

/-- Retrieving a snapshot, with the tasks and replies that it takes. -/
def retrieval (snapshotID : SnapshotID) : List (SnapshotCall Image) :=
  [.retrieveImageForSnapshotID snapshotID, .runFirstTask, .deliverFirstReply]

/-- **What a retrieval brings once nothing is outstanding**: for each snapshot
with a request, the image set last, or none after a removal. -/
def AtRest (s : SnapshotSystem Image) : Prop :=
  s.tasks = [] → s.replies = [] → ∀ id image, s.requested id = some image →
    ((machine Image).exec s (retrieval id)).callbacks = s.callbacks ++ [⟨id, image⟩]

/-- The disk once the posted tasks have run. -/
def settledDisk (s : SnapshotSystem Image) : Disk Image :=
  s.tasks.foldl s.cache.runTask s.disk

/-- A reply that arrives with an image has the one the disk will have. -/
def ReplyCurrent (s : SnapshotSystem Image) : SnapshotCall Image → Prop
  | .deliverFirstReply => ∀ reply ∈ s.replies.head?, ∀ image ∈ reply.image,
      s.settledDisk (s.cache.colorPath reply.snapshotID) = some image
  | _ => True

/-! ## The disk to come -/

theorem settledDisk_post (s : SnapshotSystem Image) (task : DiskTask Image) :
    (s.post task).settledDisk = s.cache.runTask s.settledDisk task := by
  unfold settledDisk post
  exact List.foldl_concat ..

/-- A task that runs was counted before. -/
theorem settledDisk_runFirstTask (s : SnapshotSystem Image) :
    s.runFirstTask.settledDisk = s.settledDisk := by
  unfold runFirstTask settledDisk
  cases htasks : s.tasks with
  | nil => rw [htasks]
  | cons task rest => cases task <;> rfl

section

variable (cache : SnapshotCache Image) (disk : Disk Image)

theorem runTask_write_same (image : Image) (id : SnapshotID) :
    cache.runTask disk (.writeImageToDisk image (cache.colorPath id)) (cache.colorPath id) =
      some image :=
  if_pos rfl

theorem runTask_write_of_ne (image : Image) {id id' : SnapshotID} (hne : id' ≠ id) :
    cache.runTask disk (.writeImageToDisk image (cache.colorPath id)) (cache.colorPath id') =
      disk (cache.colorPath id') :=
  if_neg fun hpath => imagePath_ne hne _ _ _ _ _ hpath

theorem runTask_delete_same (id : SnapshotID) :
    cache.runTask disk (.deleteImageWithSnapshotID id) (cache.colorPath id) = none :=
  if_pos ⟨.IMAGE_TYPE_COLOR, List.mem_cons_self, rfl⟩

theorem runTask_delete_of_ne {id id' : SnapshotID} (hne : id' ≠ id) :
    cache.runTask disk (.deleteImageWithSnapshotID id) (cache.colorPath id') =
      disk (cache.colorPath id') := by
  refine if_neg ?_
  rintro ⟨imageType, _, hpath⟩
  exact imagePath_ne hne _ _ _ _ _ hpath

theorem runTask_removeAll (id : SnapshotID) :
    cache.runTask disk .removeAllImages (cache.colorPath id) = none :=
  if_pos rfl

end

/-! ## Memory and disk agree -/

/-- The image of a snapshot in memory. -/
def inMemory (s : SnapshotSystem Image) (id : SnapshotID) : Option Image :=
  (s.cache.lruCache.peek id).join

/-- The image on disk once the posted tasks have run. -/
def settledImage (s : SnapshotSystem Image) (id : SnapshotID) : Option Image :=
  s.settledDisk (s.cache.colorPath id)

/-- The image a retrieval brings then. -/
def holds (s : SnapshotSystem Image) (id : SnapshotID) : Option Image :=
  match s.inMemory id with
  | some image => some image
  | none => s.settledImage id

/-- What memory has and what was requested is what the disk will have. -/
structure Agrees (s : SnapshotSystem Image) : Prop where
  memory : ∀ id image, s.inMemory id = some image →
    s.settledDisk (s.cache.colorPath id) = some image
  requested : ∀ id image, s.requested id = some image →
    s.settledDisk (s.cache.colorPath id) = image

variable {s : SnapshotSystem Image}

/-- Memory may forget, not invent. -/
theorem Agrees.setLruCache (h : Agrees s) {lruCache : SnapshotLRUCache Image}
    (hmemory : ∀ id image, (lruCache.peek id).join = some image → s.inMemory id = some image) :
    Agrees (s.setLruCache lruCache) :=
  ⟨fun id image hid => h.memory id image (hmemory id image hid), h.requested⟩

theorem objectForKey_fst (lruCache : SnapshotLRUCache Image) (id : SnapshotID) :
    (SnapshotLRUCache.objectForKey lruCache id).1 = (lruCache.peek id).join :=
  congrArg Option.join (MRUCache.get_fst lruCache id)

theorem peek_objectForKey (lruCache : SnapshotLRUCache Image) (id id' : SnapshotID) :
    (SnapshotLRUCache.objectForKey lruCache id).2.peek id' = lruCache.peek id' :=
  MRUCache.peek_get lruCache id id'

/-- What a write to memory leaves: its own value, or what was there. -/
theorem peek_setObject {lruCache : SnapshotLRUCache Image} {value : Option Image}
    {key id : SnapshotID} {image : Image}
    (h : ((SnapshotLRUCache.setObject lruCache value key).peek id).join = some image) :
    (id = key ∧ value = some image) ∨ (id ≠ key ∧ (lruCache.peek id).join = some image) := by
  by_cases hid : id = key
  · left
    subst hid
    refine ⟨rfl, ?_⟩
    have hput : (SnapshotLRUCache.setObject lruCache value id).peek id = some value :=
      MRUCache.peek_put_same lruCache id value
    rw [hput] at h
    exact h
  · right
    refine ⟨hid, ?_⟩
    obtain ⟨held, hheld, rfl⟩ : ∃ held, (SnapshotLRUCache.setObject lruCache value key).peek id =
        some held ∧ held = some image := by
      cases hpeek : (SnapshotLRUCache.setObject lruCache value key).peek id with
      | none =>
        rw [hpeek] at h
        cases h
      | some held =>
        rw [hpeek] at h
        exact ⟨held, rfl, h⟩
    rw [MRUCache.peek_of_peek_put hid hheld]
    rfl

theorem retrieveImageForSnapshotID_of_memory {id : SnapshotID} {image : Image}
    (hmemory : s.inMemory id = some image) :
    s.retrieveImageForSnapshotID id = (s.setLruCache
      (SnapshotLRUCache.objectForKey s.cache.lruCache id).2).callback id (some image) := by
  have hfound : (SnapshotLRUCache.objectForKey s.cache.lruCache id).1 = some image :=
    (objectForKey_fst _ id).trans hmemory
  unfold retrieveImageForSnapshotID
  simp only [hfound]

theorem retrieveImageForSnapshotID_of_not_memory {id : SnapshotID}
    (hmemory : s.inMemory id = none) :
    s.retrieveImageForSnapshotID id = (s.setLruCache
      (SnapshotLRUCache.objectForKey s.cache.lruCache id).2).post
        (.readImageForSnapshotIDFromDisk id) := by
  have hfound : (SnapshotLRUCache.objectForKey s.cache.lruCache id).1 = none :=
    (objectForKey_fst _ id).trans hmemory
  unfold retrieveImageForSnapshotID
  simp only [hfound]

theorem Agrees.retrieveImageForSnapshotID (h : Agrees s) (id : SnapshotID) :
    Agrees (s.retrieveImageForSnapshotID id) := by
  have hused : Agrees (s.setLruCache (SnapshotLRUCache.objectForKey s.cache.lruCache id).2) := by
    refine h.setLruCache fun id' image hid => ?_
    rwa [peek_objectForKey] at hid
  cases hmemory : s.inMemory id with
  | some image =>
    rw [retrieveImageForSnapshotID_of_memory hmemory]
    exact ⟨hused.memory, hused.requested⟩
  | none =>
    rw [retrieveImageForSnapshotID_of_not_memory hmemory]
    refine ⟨?_, ?_⟩
    · intro id' image hid
      rw [settledDisk_post]
      exact hused.memory id' image hid
    · intro id' image hid
      rw [settledDisk_post]
      exact hused.requested id' image hid

theorem Agrees.setImage (h : Agrees s) (image : Image) (id : SnapshotID) :
    Agrees (s.setImage image id) := by
  have hdisk : (s.setImage image id).settledDisk =
      s.cache.runTask s.settledDisk (.writeImageToDisk image (s.cache.colorPath id)) :=
    settledDisk_post (s.setLruCache _) _
  refine ⟨?_, ?_⟩
  · intro id' image' hid
    rw [hdisk]
    rcases peek_setObject hid with ⟨rfl, hvalue⟩ | ⟨hne, hheld⟩
    · obtain rfl := Option.some.inj hvalue
      exact runTask_write_same ..
    · exact (runTask_write_of_ne _ _ _ hne).trans (h.memory id' image' hheld)
  · intro id' image' hid
    rw [hdisk]
    change (if id' = id then some (some image) else s.requested id') = some image' at hid
    by_cases heq : id' = id
    · subst heq
      rw [if_pos rfl] at hid
      obtain rfl := Option.some.inj hid
      exact runTask_write_same ..
    · rw [if_neg heq] at hid
      exact (runTask_write_of_ne _ _ _ heq).trans (h.requested id' image' hid)

theorem Agrees.removeImageWithSnapshotID (h : Agrees s) (id : SnapshotID) :
    Agrees (s.removeImageWithSnapshotID id) := by
  have hdisk : (s.removeImageWithSnapshotID id).settledDisk =
      s.cache.runTask s.settledDisk (.deleteImageWithSnapshotID id) :=
    settledDisk_post (s.setLruCache _) _
  refine ⟨?_, ?_⟩
  · intro id' image hid
    rw [hdisk]
    change ((s.cache.lruCache.erase id).peek id').join = some image at hid
    by_cases heq : id' = id
    · subst heq
      rw [MRUCache.peek_erase_same] at hid
      cases hid
    · rw [MRUCache.peek_erase_of_ne heq] at hid
      exact (runTask_delete_of_ne _ _ heq).trans (h.memory id' image hid)
  · intro id' image hid
    rw [hdisk]
    change (if id' = id then some none else s.requested id') = some image at hid
    by_cases heq : id' = id
    · subst heq
      rw [if_pos rfl] at hid
      obtain rfl := Option.some.inj hid
      exact runTask_delete_same ..
    · rw [if_neg heq] at hid
      exact (runTask_delete_of_ne _ _ heq).trans (h.requested id' image hid)

theorem Agrees.removeAllImages : Agrees s.removeAllImages := by
  have hdisk : s.removeAllImages.settledDisk = s.cache.runTask s.settledDisk .removeAllImages :=
    settledDisk_post (s.setLruCache (SnapshotLRUCache.removeAllObjects s.cache.lruCache)) _
  refine ⟨fun id image hid => (by cases hid), ?_⟩
  intro id image hid
  obtain rfl : none = image := Option.some.inj hid
  rw [hdisk]
  exact runTask_removeAll ..

/-! ## Memory warnings and the background -/

theorem mem_pinnedImages : ∀ {ids : List SnapshotID} {lruCache : SnapshotLRUCache Image}
    {entry : SnapshotID × Image}, entry ∈ pinnedImages lruCache ids →
      (lruCache.peek entry.1).join = some entry.2
  | [], _, _, h => absurd h List.not_mem_nil
  | id :: rest, lruCache, entry, h => by
    unfold pinnedImages at h
    cases hfound : (SnapshotLRUCache.objectForKey lruCache id).1 with
    | none =>
      simp only [hfound] at h
      have hrest := mem_pinnedImages h
      rwa [peek_objectForKey] at hrest
    | some image =>
      simp only [hfound] at h
      rcases List.mem_cons.1 h with rfl | h
      · rw [← objectForKey_fst]
        exact hfound
      · have hrest := mem_pinnedImages h
        rwa [peek_objectForKey] at hrest

/-- A value in memory after some writes was written or was there before. -/
theorem peek_foldl_setObject (value : SnapshotID → Option Image) : ∀ (ids : List SnapshotID)
    (lruCache : SnapshotLRUCache Image) {id : SnapshotID} {image : Image},
      ((ids.foldl (fun lruCache id => SnapshotLRUCache.setObject lruCache (value id) id)
        lruCache).peek id).join = some image →
      value id = some image ∨ (lruCache.peek id).join = some image
  | [], _, _, _, h => Or.inr h
  | key :: rest, lruCache, id, image, h => by
    rcases peek_foldl_setObject value rest _ h with hvalue | hheld
    · exact Or.inl hvalue
    · rcases peek_setObject hheld with ⟨rfl, hvalue⟩ | ⟨_, hheld⟩
      · exact Or.inl hvalue
      · exact Or.inr hheld

theorem Agrees.handleLowMemory (h : Agrees s) : Agrees s.handleLowMemory := by
  refine h.setLruCache fun id image hid => ?_
  rcases peek_foldl_setObject _ _ _ hid with hvalue | hheld
  · obtain ⟨entry, hentry, rfl⟩ := Option.map_eq_some_iff.1 hvalue
    rw [← Keyed.key_of_lookup hentry]
    exact mem_pinnedImages (Keyed.mem_of_lookup hentry)
  · cases hheld

theorem Agrees.handleEnterBackground (h : Agrees s) : Agrees s.handleEnterBackground :=
  h.setLruCache fun _ _ hid => by cases hid

theorem Agrees.handleBecomeActive (h : Agrees s) : Agrees s.handleBecomeActive := by
  unfold SnapshotSystem.handleBecomeActive
  generalize s.cache.pinnedIDs = ids
  induction ids generalizing s with
  | nil => exact h
  | cons id rest ih => exact ih (h.retrieveImageForSnapshotID id)

/-! ## Tasks and replies -/

theorem runFirstTask_kept (s : SnapshotSystem Image) :
    s.runFirstTask.cache = s.cache ∧ s.runFirstTask.requested = s.requested := by
  unfold SnapshotSystem.runFirstTask
  cases s.tasks with
  | nil => exact ⟨rfl, rfl⟩
  | cons task rest => cases task <;> exact ⟨rfl, rfl⟩

theorem Agrees.runFirstTask (h : Agrees s) : Agrees s.runFirstTask := by
  obtain ⟨hcache, hrequested⟩ := runFirstTask_kept s
  refine ⟨?_, ?_⟩
  · unfold inMemory
    rw [settledDisk_runFirstTask, hcache]
    exact h.memory
  · rw [settledDisk_runFirstTask, hcache, hrequested]
    exact h.requested

/-- A reply keeps the agreement if its image is the one the disk will have. -/
theorem Agrees.deliverFirstReply (h : Agrees s) (hcurrent : s.ReplyCurrent .deliverFirstReply) :
    Agrees s.deliverFirstReply := by
  unfold SnapshotSystem.deliverFirstReply
  cases hreplies : s.replies with
  | nil => exact h
  | cons reply rest =>
    show Agrees (SnapshotSystem.receive { s with replies := rest } reply)
    unfold SnapshotSystem.receive
    cases himage : reply.image with
    | none => exact ⟨h.memory, h.requested⟩
    | some image =>
      refine ⟨?_, h.requested⟩
      intro id image' hid
      rcases peek_setObject hid with ⟨rfl, hvalue⟩ | ⟨_, hheld⟩
      · obtain rfl := Option.some.inj hvalue
        exact hcurrent reply (by rw [hreplies]; rfl) image himage
      · exact h.memory id image' hheld

theorem agrees_step (h : Agrees s) (call : SnapshotCall Image)
    (hcurrent : s.ReplyCurrent call) : Agrees (s.step call) := by
  cases call with
  | retrieveImageForSnapshotID id => exact h.retrieveImageForSnapshotID id
  | setImage image id => exact h.setImage image id
  | removeImageWithSnapshotID id => exact h.removeImageWithSnapshotID id
  | removeAllImages => exact Agrees.removeAllImages
  | setPinnedIDs ids => exact ⟨h.memory, h.requested⟩
  | handleLowMemory => exact h.handleLowMemory
  | handleEnterBackground => exact h.handleEnterBackground
  | handleBecomeActive => exact h.handleBecomeActive
  | runFirstTask => exact h.runFirstTask
  | deliverFirstReply => exact h.deliverFirstReply hcurrent

theorem Fresh.agrees (h : Fresh s) : Agrees s := by
  obtain ⟨hcache, _, _, hrequested⟩ := h
  refine ⟨?_, ?_⟩
  · intro id image hid
    unfold inMemory at hid
    rw [hcache] at hid
    cases hid
  · intro id image hid
    rw [hrequested] at hid
    cases hid

/-! ## At rest -/

theorem receive_callbacks (reply : Retrieved Image) :
    (s.receive reply).callbacks = s.callbacks ++ [reply] := by
  obtain ⟨id, image⟩ := reply
  cases image <;> rfl

theorem runFirstTask_of_nil (htasks : s.tasks = []) : s.runFirstTask = s := by
  unfold runFirstTask
  rw [htasks]

theorem deliverFirstReply_of_nil (hreplies : s.replies = []) : s.deliverFirstReply = s := by
  unfold deliverFirstReply
  rw [hreplies]

/-- The only task is a read: its reply brings the file. -/
theorem read_callbacks {id : SnapshotID} (htasks : s.tasks = [.readImageForSnapshotIDFromDisk id])
    (hreplies : s.replies = []) : s.runFirstTask.deliverFirstReply.callbacks =
      s.callbacks ++ [⟨id, s.disk (s.cache.colorPath id)⟩] := by
  have hrun : s.runFirstTask =
      { s with tasks := [], replies := [⟨id, s.disk (s.cache.colorPath id)⟩] } := by
    unfold runFirstTask
    rw [htasks, hreplies]
    rfl
  rw [hrun]
  exact receive_callbacks _

/-- A retrieval at rest brings what memory has, or else what the disk has. -/
theorem retrieval_callbacks (htasks : s.tasks = []) (hreplies : s.replies = []) (id : SnapshotID) :
    ((machine Image).exec s (retrieval id)).callbacks = s.callbacks ++
      [⟨id, match s.inMemory id with
        | some image => some image
        | none => s.disk (s.cache.colorPath id)⟩] := by
  show (s.retrieveImageForSnapshotID id).runFirstTask.deliverFirstReply.callbacks = _
  cases hmemory : s.inMemory id with
  | some image =>
    rw [retrieveImageForSnapshotID_of_memory hmemory, runFirstTask_of_nil (by exact htasks),
      deliverFirstReply_of_nil (by exact hreplies)]
    rfl
  | none =>
    rw [retrieveImageForSnapshotID_of_not_memory hmemory]
    refine read_callbacks ?_ hreplies
    show s.tasks ++ [_] = [_]
    rw [htasks]
    rfl

theorem Agrees.atRest (h : Agrees s) : AtRest s := by
  intro htasks hreplies id image hrequested
  have hdisk : s.settledDisk = s.disk := by
    unfold settledDisk
    rw [htasks]
    rfl
  have hwanted := h.requested id image hrequested
  rw [retrieval_callbacks htasks hreplies]
  cases hmemory : s.inMemory id with
  | some held =>
    obtain rfl : some held = image := (h.memory id held hmemory).symm.trans hwanted
    rfl
  | none =>
    rw [← hdisk]
    rw [hwanted]

/-- **At rest a retrieval brings what was requested last**, in every run whose
replies are current when they arrive. -/
theorem atRest_of_repliesCurrent {start : SnapshotSystem Image} {calls : List (SnapshotCall Image)}
    (hstart : Fresh start) (hcurrent : (machine Image).Always ReplyCurrent start calls) :
    AtRest ((machine Image).exec start calls) :=
  (Machine.Guarded.invariant (I := Agrees) (fun _ call h _ hreply => agrees_step h call hreply)
    hstart.agrees (Machine.always_of_forall (machine Image) (fun _ _ => trivial) start calls)
    hcurrent).atRest

private def tab : SnapshotID := ⟨"3F2504E0-4F89-11D3-9A0C-0305E82C3301", length_tabUUID⟩

/-- A new cache over a directory with image 1 of the tab. -/
private def oldImage : SnapshotSystem Nat where
  cache := ⟨SnapshotLRUCache.initWithCacheSize kLRUCacheMaxCapacity, [], .IMAGE_SCALE_2X,
    "Snapshots"⟩
  disk := fun file =>
    if file = imagePath tab .IMAGE_TYPE_COLOR .IMAGE_SCALE_2X "Snapshots" then some 1 else none
  tasks := []
  replies := []
  callbacks := []
  requested := fun _ => none

private theorem oldImage_fresh : Fresh oldImage := ⟨rfl, rfl, rfl, fun _ => rfl⟩

instance [DecidableEq Image] (s : SnapshotSystem Image) (call : SnapshotCall Image) :
    Decidable (s.ReplyCurrent call) := by
  cases call <;> unfold ReplyCurrent <;> infer_instance

/-- The image is replaced, and read back after the memory was cleared. -/
private def readBack : List (SnapshotCall Nat) :=
  [.setImage 2 tab, .runFirstTask, .handleEnterBackground, .retrieveImageForSnapshotID tab,
    .runFirstTask, .deliverFirstReply]

theorem atRest_readBack : AtRest ((machine Nat).exec oldImage readBack) :=
  atRest_of_repliesCurrent oldImage_fresh (by decide +kernel)

/-- The image is replaced while it is being read. -/
private def replacedMeanwhile : List (SnapshotCall Nat) :=
  [.retrieveImageForSnapshotID tab, .setImage 2 tab, .runFirstTask, .runFirstTask,
    .deliverFirstReply]

/-- **A stale reply is shown from then on**: at rest the disk has image 2, and
the retrieval brings image 1. -/
theorem staleReply_shown :
    ((machine Nat).exec oldImage replacedMeanwhile).requested tab = some (some 2) ∧
    ((machine Nat).exec ((machine Nat).exec oldImage replacedMeanwhile) (retrieval tab)).callbacks =
      [⟨tab, some 1⟩, ⟨tab, some 1⟩] ∧
    ¬ AtRest ((machine Nat).exec oldImage replacedMeanwhile) := by
  have hcallbacks : ((machine Nat).exec ((machine Nat).exec oldImage replacedMeanwhile)
      (retrieval tab)).callbacks = [⟨tab, some 1⟩, ⟨tab, some 1⟩] := by decide +kernel
  have hrequested : ((machine Nat).exec oldImage replacedMeanwhile).requested tab =
      some (some 2) := by decide +kernel
  refine ⟨hrequested, hcallbacks, ?_⟩
  intro hrest
  have hbrings := hrest rfl rfl tab (some 2) hrequested
  have hbefore : ((machine Nat).exec oldImage replacedMeanwhile).callbacks =
      [⟨tab, some 1⟩] := by decide +kernel
  rw [hcallbacks, hbefore] at hbrings
  exact absurd hbrings (by decide)

end SnapshotSystem

end IosChrome.Snapshots

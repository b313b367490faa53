import IosChrome.Snapshots.SnapshotCache
import Mathlib.Data.List.Perm.Subperm

/-!
# A memory warning and the pinned snapshots

On a memory warning the cache takes the images of the pinned snapshots out,
empties itself and puts them back. The second loop puts a value for every pinned
id, nil where there was no image, and such a value takes the place of an entry
as any other does: it stays without an image, or it pushes out an image that
should stay.

What is left is written down exactly (`ordering_handleLowMemory`): the last
pinned ids, as many as the cache takes, with what each had in memory. So the
pinned images are kept, and nothing else, just when the pinned ids with an image
are these ids (`keepsPinnedImages_iff`).
-/

namespace IosChrome.Snapshots

open IosChrome.Lib

variable {Image : Type}

namespace SnapshotSystem

variable (s : SnapshotSystem Image)

/-- The pinned ids that the cache has room for, the last one first. -/
def lastPinned : List SnapshotID :=
  MRUCache.upTo s.cache.lruCache.maxSize s.cache.pinnedIDs.dedup.reverse

/-- After the warning there is one entry for each pinned snapshot that had an
image in memory, with this image, and no other entry. -/
def KeepsPinnedImages : Prop :=
  Keyed.Unique Prod.fst s.handleLowMemory.cache.lruCache.ordering ∧
  ∀ entry, entry ∈ s.handleLowMemory.cache.lruCache.ordering ↔
    entry.1 ∈ s.cache.pinnedIDs ∧ (s.inMemory entry.1).isSome ∧ entry.2 = s.inMemory entry.1

/-- The pinned ids with an image in memory are those the cache has room for. -/
def ImagesAreLast : Prop :=
  ∀ snapshotID ∈ s.cache.pinnedIDs,
    (s.inMemory snapshotID).isSome ↔ snapshotID ∈ s.lastPinned

/-! ## The two loops -/

/-- **The dictionary holds what was in memory**, for every pinned id. -/
theorem lookup_pinnedImages : ∀ {ids : List SnapshotID} (lruCache : SnapshotLRUCache Image)
    {id : SnapshotID}, id ∈ ids →
      (Keyed.lookup Prod.fst (pinnedImages lruCache ids) id).map Prod.snd = (lruCache.peek id).join
  | [], _, _, h => absurd h List.not_mem_nil
  | first :: rest, lruCache, id, h => by
    unfold pinnedImages
    have hfst := objectForKey_fst lruCache first
    by_cases hid : id = first
    · subst hid
      cases hfound : (SnapshotLRUCache.objectForKey lruCache id).1 with
      | some image =>
        rw [hfound] at hfst
        simp only [hfound, MRUCache.lookup_cons_same, Option.map_some]
        exact hfst
      | none =>
        -- no entry of the dictionary is for an id without an image
        rw [hfound] at hfst
        simp only [hfound]
        rw [← hfst, Option.map_eq_none_iff, Keyed.lookup_eq_none]
        intro entry hentry hkey
        have himage := mem_pinnedImages hentry
        rw [peek_objectForKey, hkey, ← hfst] at himage
        cases himage
    · have hrest : id ∈ rest := (List.mem_cons.1 h).resolve_left hid
      have ih := lookup_pinnedImages (SnapshotLRUCache.objectForKey lruCache first).2 hrest
      rw [peek_objectForKey] at ih
      cases hfound : (SnapshotLRUCache.objectForKey lruCache first).1 with
      | some image =>
        simp only [hfound]
        rw [MRUCache.lookup_cons_of_ne _ _ hid]
        exact ih
      | none =>
        simp only [hfound]
        exact ih

/-- **What a memory warning leaves**: the last pinned ids, each with what it had. -/
theorem ordering_handleLowMemory :
    s.handleLowMemory.cache.lruCache.ordering =
      s.lastPinned.map fun snapshotID => (snapshotID, s.inMemory snapshotID) := by
  have hput := MRUCache.ordering_foldl_put s.cache.lruCache
    (fun id => (Keyed.lookup Prod.fst (pinnedImages s.cache.lruCache s.cache.pinnedIDs) id).map
      Prod.snd) s.cache.pinnedIDs
  refine (congrArg MRUCache.ordering hput).trans (List.map_congr_left fun id hid => ?_)
  have hpinned : id ∈ s.cache.pinnedIDs :=
    List.mem_dedup.1 (List.mem_reverse.1 ((MRUCache.upTo_sublist _ _).subset hid))
  rw [lookup_pinnedImages _ hpinned]
  rfl

theorem lastPinned_nodup : s.lastPinned.Nodup :=
  (List.nodup_reverse.2 (List.nodup_dedup _)).sublist (MRUCache.upTo_sublist _ _)

theorem pinned_of_lastPinned {id : SnapshotID} (h : id ∈ s.lastPinned) :
    id ∈ s.cache.pinnedIDs :=
  List.mem_dedup.1 (List.mem_reverse.1 ((MRUCache.upTo_sublist _ _).subset h))

theorem unique_handleLowMemory :
    Keyed.Unique Prod.fst s.handleLowMemory.cache.lruCache.ordering := by
  unfold Keyed.Unique
  rw [ordering_handleLowMemory, List.map_map]
  have hkeys : Prod.fst ∘ (fun id => (id, s.inMemory id)) = id := rfl
  rw [hkeys, List.map_id]
  exact s.lastPinned_nodup

theorem mem_handleLowMemory {entry : SnapshotID × Option Image} :
    entry ∈ s.handleLowMemory.cache.lruCache.ordering ↔
      entry.1 ∈ s.lastPinned ∧ entry.2 = s.inMemory entry.1 := by
  rw [ordering_handleLowMemory, List.mem_map]
  constructor
  · rintro ⟨id, hid, rfl⟩
    exact ⟨hid, rfl⟩
  · rintro ⟨hid, himage⟩
    exact ⟨entry.1, hid, by rw [← himage]⟩

/-! ## When the pinned images are kept -/

/-- **The pinned images are kept, and nothing else, just when the pinned ids that
had an image are those the cache has room for.** -/
theorem keepsPinnedImages_iff : s.KeepsPinnedImages ↔ s.ImagesAreLast := by
  constructor
  · intro hkeeps id hid
    have hentry := hkeeps.2 (id, s.inMemory id)
    rw [mem_handleLowMemory] at hentry
    constructor
    · intro himage
      exact (hentry.2 ⟨hid, himage, rfl⟩).1
    · intro hlast
      exact (hentry.1 ⟨hlast, rfl⟩).2.1
  · intro hlast
    refine ⟨s.unique_handleLowMemory, fun entry => ?_⟩
    rw [mem_handleLowMemory]
    constructor
    · rintro ⟨hid, himage⟩
      have hpinned := s.pinned_of_lastPinned hid
      exact ⟨hpinned, (hlast _ hpinned).2 hid, himage⟩
    · rintro ⟨hpinned, hsome, himage⟩
      exact ⟨(hlast _ hpinned).1 hsome, himage⟩

end SnapshotSystem

private def adjacentID : SnapshotID := ⟨"7B1E4C90-52AD-4F3B-9E06-D8A2C5176F43", by decide +kernel⟩

/-- Nothing in memory, and the snapshot of a tab next to the current one pinned. -/
private def pinnedUnread : SnapshotSystem Nat where
  cache := ⟨SnapshotLRUCache.initWithCacheSize kLRUCacheMaxCapacity, [adjacentID],
    .IMAGE_SCALE_2X, "Snapshots"⟩
  disk := fun _ => none
  tasks := []
  replies := []
  callbacks := []
  requested := fun _ => none

/-- **A memory warning fills an empty cache**: an entry that has no image. -/
theorem lowMemory_addsEmptyEntry :
    pinnedUnread.cache.lruCache.ordering = [] ∧
      pinnedUnread.handleLowMemory.cache.lruCache.ordering = [(adjacentID, none)] ∧
      ¬ pinnedUnread.KeepsPinnedImages := by
  have hleft : pinnedUnread.handleLowMemory.cache.lruCache.ordering = [(adjacentID, none)] := rfl
  refine ⟨rfl, hleft, fun hkeeps => ?_⟩
  have hentry := (hkeeps.2 (adjacentID, none)).1 (hleft ▸ List.mem_singleton_self _)
  cases hentry.2.1

end IosChrome.Snapshots

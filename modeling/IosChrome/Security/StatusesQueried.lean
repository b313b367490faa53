import IosChrome.Security.SSLStatusUpdater

/-!
# The status of an item is that of its certificate and host

`Queried` is what an item's `SSLStatus` should mean: a style other than unknown, with its
certificate status, is the answer to a query for the item's certificate and for the host that
was stored with it; and as long as the style of the last committed item is unknown, and the
stored host is that of its URL, the query is outstanding.

A query is made when the certificate or the stored host changes, but a reply is compared with
the host of the item's URL at that moment, and a redirect changes the URL alone. So a reply is
dropped while the URL is elsewhere and the query is not made again when the URL is back
(`droppedReply_unknown`), and a late reply for another host the URL has come to is taken over.

`Timely` is the condition on the replies under which neither happens. `queried_of_timely` shows
that it is enough along every run, and that it is not too strong: from the first reply that is
not timely, redirects and commits alone lead to a state in which `Queried` fails.
-/

namespace IosChrome.Security

open IosChrome.Lib

variable {Cert : Type} [DecidableEq Cert]

/-! ## What is claimed -/

def NavigationItem.StatusQueried (item : NavigationItem Cert) : Prop :=
  ∀ cert, item.ssl.certificate = some cert → item.ssl.securityStyle ≠ .unknown →
    item.answer = some ⟨cert, item.ssl.certStatusHost, item.ssl.securityStyle, item.ssl.certStatus⟩

/-- The query for the certificate of an item and the host stored with it. -/
def NavigationItem.query (item : NavigationItem Cert) (cert : Cert) : Query Cert :=
  ⟨item.uniqueID, cert, item.ssl.certStatusHost⟩

def NavigationItem.Waits (item : NavigationItem Cert) (queries : List (Query Cert)) : Prop :=
  ∀ cert, item.ssl.certificate = some cert → item.ssl.securityStyle = .unknown →
    item.query cert ∈ queries

namespace SSLStatusUpdater

variable {u : SSLStatusUpdater Cert}

structure Queried (u : SSLStatusUpdater Cert) : Prop where
  statuses : ∀ item ∈ u.items, item.StatusQueried
  outstanding : ∀ item cert, u.items[u.lastCommitted]? = some item →
    item.ssl.certificate = some cert → item.ssl.certStatusHost = item.url.host →
      item.ssl.securityStyle = .unknown → Query.mk item.uniqueID cert item.url.host ∈ u.queries

/-- For an item that has still the certificate of the query: a reply it accepts is for the
host stored with the certificate, and a reply after which the style is unknown is not the last
one for the item's certificate and stored host. -/
def Timely (u : SSLStatusUpdater Cert) (call : Call Cert) : Prop :=
  match call with
  | .reply k style _ => ∀ query item, u.queries[k]? = some query → item ∈ u.items →
      item.uniqueID = query.itemID → item.ssl.certificate = some query.cert →
        if item.accepts query then
          (style ≠ .unknown → item.ssl.certStatusHost = query.host) ∧
            (style = .unknown → item.query query.cert ∈ u.queries.eraseIdx k)
        else item.ssl.securityStyle = .unknown → item.query query.cert ∈ u.queries.eraseIdx k
  | _ => True

structure Inv (u : SSLStatusUpdater Cert) : Prop where
  unique : Keyed.Unique NavigationItem.uniqueID u.items
  statuses : ∀ item ∈ u.items, item.StatusQueried
  waits : ∀ item ∈ u.items, item.Waits u.queries

omit [DecidableEq Cert] in
theorem Inv.queried (h : Inv u) : u.Queried where
  statuses := h.statuses
  outstanding := by
    intro item cert hitem hcert hhost hunknown
    rw [← hhost]
    exact h.waits item (List.mem_of_getElem? hitem) cert hcert hunknown

omit [DecidableEq Cert] in
theorem Inv.congr {u' : SSLStatusUpdater Cert} (h : Inv u) (hitems : u'.items = u.items)
    (hqueries : u'.queries = u.queries) : Inv u' := by
  obtain ⟨hunique, hstatuses, hwaits⟩ := h
  rw [← hitems] at hunique hstatuses hwaits
  rw [← hqueries] at hwaits
  exact ⟨hunique, hstatuses, hwaits⟩

omit [DecidableEq Cert] in
theorem Inv.initWithNavigationManager :
    Inv (initWithNavigationManager : SSLStatusUpdater Cert) where
  unique := List.nodup_nil
  statuses := fun _ hmem => nomatch hmem
  waits := fun _ hmem => nomatch hmem

omit [DecidableEq Cert] in
/-- One item is written, under its own id, and queries are only lost for that item. -/
theorem Inv.set (h : Inv u) {index : Nat} {item item' : NavigationItem Cert}
    {queries : List (Query Cert)} {notified : List Int} (hitem : u.items[index]? = some item)
    (hid : item'.uniqueID = item.uniqueID) (hstatus : item'.StatusQueried)
    (hwaits : item'.Waits queries)
    (hkept : ∀ query ∈ u.queries, query.itemID ≠ item.uniqueID → query ∈ queries) :
    Inv { u with items := u.items.set index item', queries := queries, notified := notified } := by
  refine ⟨h.unique.set hitem hid, fun other hmem => ?_, fun other hmem => ?_⟩
  · obtain hold | rfl := List.mem_or_eq_of_mem_set hmem
    · exact h.statuses other hold
    · exact hstatus
  · obtain ⟨i, hi⟩ := List.mem_iff_getElem?.1 hmem
    by_cases hindex : index = i
    · subst hindex
      have hlt : index < u.items.length := (List.getElem?_eq_some_iff.1 hitem).1
      rw [List.getElem?_set_self hlt] at hi
      obtain rfl := Option.some.inj hi
      exact hwaits
    · rw [List.getElem?_set_ne hindex] at hi
      intro cert hcert hunknown
      refine hkept _ (h.waits other (List.mem_of_getElem? hi) cert hcert hunknown) ?_
      exact fun heq => hindex (h.unique.index_eq hitem hi heq.symm)

/-! ## Updates -/

/-- What an update does: a query is due for what has been stored anew, there is no certificate,
or nothing changed that a query depends on. -/
theorem update_cases {ssl : SSLStatus Cert} {url : ItemURL} {host : String} {trust : Option Cert}
    {hasOnlySecureContent : Bool} {result : SSLStatus Cert × Option Cert}
    (h : ssl.update url host trust hasOnlySecureContent = result) :
    (∃ cert, result.2 = some cert ∧ result.1.certificate = some cert ∧
      result.1.certStatusHost = host ∧ result.1.securityStyle = .unknown) ∨
    (result.2 = none ∧ result.1.certificate = none) ∨
    (result.2 = none ∧ result.1 = { ssl with contentStatus := result.1.contentStatus }) := by
  unfold SSLStatus.update at h
  dsimp only at h
  split at h
  · split at h
    · next cert =>
      split at h
      · subst h
        exact .inl ⟨cert, rfl, rfl, rfl, rfl⟩
      · next hsame =>
        obtain ⟨hcert, hhost⟩ := not_or.1 hsame
        subst h
        refine .inr (.inr ⟨rfl, ?_⟩)
        have hcert : ssl.certificate = some cert := not_not.1 hcert
        have hhost : ssl.certStatusHost = host := not_not.1 hhost
        rw [← hcert, ← hhost]
    · subst h
      exact .inr (.inl ⟨rfl, rfl⟩)
  · subst h
    exact .inr (.inl ⟨rfl, rfl⟩)

theorem didChange_items (previous item : NavigationItem Cert) :
    (u.didChangeSSLStatusForNavigationItem previous item).items = u.items := by
  unfold didChangeSSLStatusForNavigationItem
  split <;> rfl

theorem didChange_queries (previous item : NavigationItem Cert) :
    (u.didChangeSSLStatusForNavigationItem previous item).queries = u.queries := by
  unfold didChangeSSLStatusForNavigationItem
  split <;> rfl

theorem Inv.didChange (h : Inv u) (previous item : NavigationItem Cert) :
    Inv (u.didChangeSSLStatusForNavigationItem previous item) :=
  h.congr (didChange_items previous item) (didChange_queries previous item)

theorem Inv.updateSSLStatus (h : Inv u) (host : String) (trust : Option Cert)
    (hasOnlySecureContent : Bool) :
    Inv (u.updateSSLStatusForNavigationItem u.lastCommitted host trust hasOnlySecureContent) := by
  unfold updateSSLStatusForNavigationItem
  split
  · exact h
  · next item hitem =>
    have hlt : u.lastCommitted < u.items.length := (List.getElem?_eq_some_iff.1 hitem).1
    have hmem := List.mem_of_getElem? hitem
    generalize hupdate : item.ssl.update item.url host trust hasOnlySecureContent = result
    obtain ⟨ssl, recompute⟩ := result
    unfold writeUpdate
    obtain ⟨cert, rfl, hcert, hhost, hunknown⟩ | ⟨rfl, hnone⟩ | ⟨rfl, hsame⟩ :=
      update_cases hupdate
    · refine Inv.didChange ?_ _ _
      unfold scheduleSSLStatusUpdateUsingTrust
      simp only [List.getElem?_set_self hlt]
      refine h.set hitem rfl (fun _ _ hknown => absurd hunknown hknown) ?_
        fun query hquery _ => List.mem_append_left _ hquery
      intro other hother _
      obtain rfl : cert = other := Option.some.inj (hcert.symm.trans hother)
      refine List.mem_append_right _ (List.mem_singleton.2 ?_)
      exact congrArg (Query.mk item.uniqueID cert) hhost
    · refine Inv.didChange ?_ _ _
      refine h.set hitem rfl ?_ ?_ fun query hquery _ => hquery
      · intro cert hcert
        exact nomatch hnone.symm.trans hcert
      · intro cert hcert
        exact nomatch hnone.symm.trans hcert
    · refine Inv.didChange ?_ _ _
      have hsame : ssl = { item.ssl with contentStatus := ssl.contentStatus } := hsame
      rw [hsame]
      exact h.set hitem rfl (h.statuses item hmem) (h.waits item hmem)
        fun query hquery _ => hquery

/-! ## Replies -/

omit [DecidableEq Cert] in
/-- What is not the query at an index stays when that one is removed. -/
theorem mem_eraseIdx_of_ne {queries : List (Query Cert)} {k : Nat} {query other : Query Cert}
    (hquery : queries[k]? = some query) (hmem : other ∈ queries) (hne : other ≠ query) :
    other ∈ queries.eraseIdx k := by
  obtain ⟨hk, rfl⟩ := List.getElem?_eq_some_iff.1 hquery
  obtain rfl | hrest := List.mem_cons.1
    ((List.getElem_cons_eraseIdx_perm hk).mem_iff.2 hmem)
  · exact absurd rfl hne
  · exact hrest

/-- A reply to a query: its item is not committed any more, or the reply is applied to it. -/
theorem reply_cases {k : Nat} {query : Query Cert} (hquery : u.queries[k]? = some query)
    (style : SecurityStyle) (certStatus : Nat) :
    ((∀ item ∈ u.items, item.uniqueID ≠ query.itemID) ∧
      u.updateSSLStatusForItemWithID k style certStatus =
        { u with queries := u.queries.eraseIdx k }) ∨
    ∃ (index : Nat) (item : NavigationItem Cert), u.items[index]? = some item ∧
      item.uniqueID = query.itemID ∧
      u.updateSSLStatusForItemWithID k style certStatus =
        { u with
          queries := u.queries.eraseIdx k
          items := u.items.set index
            (item.applyReply query style
              certStatus) }.didChangeSSLStatusForNavigationItem item
          (item.applyReply query style certStatus) := by
  unfold updateSSLStatusForItemWithID
  simp only [hquery]
  cases hfind : u.items.findIdx? fun item => item.uniqueID = query.itemID with
  | none =>
    exact .inl ⟨fun item hmem => of_decide_eq_false (List.findIdx?_eq_none_iff.1 hfind item hmem),
      rfl⟩
  | some index =>
    obtain ⟨hlt, hid, -⟩ := List.findIdx?_eq_some_iff_getElem.1 hfind
    have hitem : u.items[index]? = some u.items[index] := List.getElem?_eq_getElem hlt
    refine .inr ⟨index, u.items[index], hitem, of_decide_eq_true hid, ?_⟩
    simp only [hitem]

theorem applyReply_of_accepts {item : NavigationItem Cert} {query : Query Cert}
    (h : item.accepts query = true) (style : SecurityStyle) (certStatus : Nat) :
    item.applyReply query style certStatus =
      { item with
        ssl := { item.ssl with certStatus := certStatus, securityStyle := style }
        answer := some ⟨query.cert, query.host, style, certStatus⟩ } :=
  if_pos h

theorem applyReply_of_not {item : NavigationItem Cert} {query : Query Cert}
    (h : ¬ item.accepts query = true) (style : SecurityStyle) (certStatus : Nat) :
    item.applyReply query style certStatus = item :=
  if_neg h

theorem applyReply_uniqueID (item : NavigationItem Cert) (query : Query Cert)
    (style : SecurityStyle) (certStatus : Nat) :
    (item.applyReply query style certStatus).uniqueID = item.uniqueID := by
  unfold NavigationItem.applyReply
  split <;> rfl

theorem cert_of_accepts {item : NavigationItem Cert} {query : Query Cert}
    (h : item.accepts query = true) : item.ssl.certificate = some query.cert := by
  unfold NavigationItem.accepts at h
  exact of_decide_eq_true (Bool.and_eq_true_iff.1 (Bool.and_eq_true_iff.1 h).1).2

theorem Inv.reply (h : Inv u) {k : Nat} {style : SecurityStyle} {certStatus : Nat}
    (htimely : u.Timely (.reply k style certStatus)) :
    Inv (u.updateSSLStatusForItemWithID k style certStatus) := by
  cases hquery : u.queries[k]? with
  | none =>
    unfold updateSSLStatusForItemWithID
    simp only [hquery]
    exact h
  | some query =>
    have hkept : ∀ other ∈ u.queries, other.itemID ≠ query.itemID →
        other ∈ u.queries.eraseIdx k := by
      intro other hmem hne
      exact mem_eraseIdx_of_ne hquery hmem fun heq => hne (congrArg Query.itemID heq)
    obtain ⟨hgone, heq⟩ | ⟨index, item, hitem, hid, heq⟩ := reply_cases hquery style certStatus
    · rw [heq]
      refine ⟨h.unique, h.statuses, fun item hmem cert hcert hunknown => ?_⟩
      exact hkept _ (h.waits item hmem cert hcert hunknown) (hgone item hmem)
    · rw [heq]
      have hmem := List.mem_of_getElem? hitem
      refine Inv.didChange ?_ _ _
      refine h.set hitem (applyReply_uniqueID item query style certStatus) ?_ ?_
        fun other hother hne => hkept other hother (hid ▸ hne)
      · by_cases haccepts : item.accepts query = true
        · -- a style that is taken over is for the stored host
          rw [applyReply_of_accepts haccepts]
          intro cert hcert hknown
          have hcert : item.ssl.certificate = some cert := hcert
          have hquerycert := cert_of_accepts haccepts
          obtain rfl : query.cert = cert := Option.some.inj (hquerycert.symm.trans hcert)
          have hreply := htimely query item hquery hmem hid hquerycert
          rw [if_pos haccepts] at hreply
          show some (Answer.mk query.cert query.host style certStatus) =
            some ⟨query.cert, item.ssl.certStatusHost, style, certStatus⟩
          rw [hreply.1 hknown]
        · rw [applyReply_of_not haccepts]
          exact h.statuses item hmem
      · by_cases hsame : item.ssl.certificate = some query.cert
        · have hreply := htimely query item hquery hmem hid hsame
          by_cases haccepts : item.accepts query = true
          · rw [if_pos haccepts] at hreply
            rw [applyReply_of_accepts haccepts]
            intro cert hcert hunknown
            obtain rfl : query.cert = cert := Option.some.inj (hsame.symm.trans hcert)
            exact hreply.2 hunknown
          · rw [if_neg haccepts] at hreply
            rw [applyReply_of_not haccepts]
            intro cert hcert hunknown
            obtain rfl : query.cert = cert := Option.some.inj (hsame.symm.trans hcert)
            exact hreply hunknown
        · -- the query of the item is for another certificate
          rw [applyReply_of_not fun haccepts => hsame (cert_of_accepts haccepts)]
          intro cert hcert hunknown
          refine mem_eraseIdx_of_ne hquery (h.waits item hmem cert hcert hunknown) fun hother => ?_
          obtain rfl : cert = query.cert := congrArg Query.cert hother
          exact hsame hcert

/-! ## Redirects and commits -/

omit [DecidableEq Cert] in
theorem changeURL_items {index : Nat} {item : NavigationItem Cert}
    (hitem : u.items[index]? = some item) (url : ItemURL) :
    (u.changeURL index url).items = u.items.set index { item with url := url } := by
  unfold SSLStatusUpdater.changeURL
  rw [List.modify_eq_set_getElem?]
  simp only [hitem]
  rfl

omit [DecidableEq Cert] in
theorem Inv.changeURL (h : Inv u) (index : Nat) (url : ItemURL) : Inv (u.changeURL index url) := by
  cases hitem : u.items[index]? with
  | none =>
    refine h.congr ?_ rfl
    exact List.modify_eq_self (List.getElem?_eq_none_iff.1 hitem)
  | some item =>
    have hmem := List.mem_of_getElem? hitem
    refine (@Inv.set Cert u h index item { item with url := url } u.queries u.notified hitem rfl
      (h.statuses item hmem) (h.waits item hmem) fun query hquery _ => hquery).congr
        (changeURL_items hitem url) rfl

omit [DecidableEq Cert] in
/-- A new item has no certificate. -/
theorem Inv.commit (h : Inv u) {items : List (NavigationItem Cert)} {lastCommitted : Nat}
    (hunique : Keyed.Unique NavigationItem.uniqueID items)
    (hitems : ∀ item ∈ items, item ∈ u.items ∨ (item.ssl = {} ∧ item.answer = none)) :
    Inv (u.commit items lastCommitted) := by
  refine ⟨hunique, fun item hmem => ?_, fun item hmem => ?_⟩
  · obtain hold | ⟨hnew, -⟩ := hitems item hmem
    · exact h.statuses item hold
    · intro cert hcert
      rw [hnew] at hcert
      cases hcert
  · obtain hold | ⟨hnew, -⟩ := hitems item hmem
    · exact h.waits item hold
    · intro cert hcert
      rw [hnew] at hcert
      cases hcert

theorem Inv.step {call : Call Cert} (h : Inv u) (hpre : u.Pre call) (htimely : u.Timely call) :
    Inv (u.step call) := by
  cases call with
  | updateSSLStatus host trust hasOnlySecureContent =>
    exact h.updateSSLStatus host trust hasOnlySecureContent
  | reply k style certStatus => exact h.reply htimely
  | changeURL index url => exact h.changeURL index url
  | commit items lastCommitted => exact h.commit hpre.2.1 hpre.2.2

/-! ## Replies that come at the wrong time -/

/-- An item whose query is lost: when a redirect takes it back to the host stored with its
certificate, and it is the last committed one, nothing is outstanding for it. -/
theorem lost_query_shows {index : Nat} {item : NavigationItem Cert} {cert : Cert}
    (hunique : Keyed.Unique NavigationItem.uniqueID u.items)
    (hitem : u.items[index]? = some item) (hcert : item.ssl.certificate = some cert)
    (hunknown : item.ssl.securityStyle = .unknown) (hlost : item.query cert ∉ u.queries) :
    ∃ more, machine.Run u more ∧
      ¬ machine.Always (fun u call => (u.step call).Queried) u more := by
  have hlt : index < u.items.length := (List.getElem?_eq_some_iff.1 hitem).1
  let back : ItemURL := ⟨"https", item.ssl.certStatusHost⟩
  refine ⟨[.changeURL index back,
    .commit (u.items.set index { item with url := back }) index], ⟨trivial, ⟨?_, ?_, ?_⟩, trivial⟩,
    fun hqueried => ?_⟩
  · rw [List.length_set]
    exact hlt
  · exact hunique.set hitem rfl
  · intro other hother
    refine .inl ?_
    show other ∈ (u.changeURL index back).items
    rw [changeURL_items hitem]
    exact hother
  · have hlast := hqueried.2.1.outstanding { item with url := back } cert
      (List.getElem?_set_self hlt) hcert rfl hunknown
    exact hlost hlast

/-- After the first reply that is not timely, redirects and commits show that something is
wrong. -/
theorem Inv.untimely_shows (h : Inv u) {call : Call Cert} (huntimely : ¬ u.Timely call) :
    ∃ more, machine.Run (u.step call) more ∧
      ¬ machine.Always (fun u call => (u.step call).Queried) u (call :: more) := by
  by_contra hnone
  have hrest : ∀ more, machine.Run (u.step call) more →
      machine.Always (fun u call => (u.step call).Queried) u (call :: more) := by
    intro more hrun
    by_contra hnot
    exact hnone ⟨more, hrun, hnot⟩
  apply huntimely
  cases call with
  | updateSSLStatus host trust hasOnlySecureContent => trivial
  | changeURL index url => trivial
  | commit items lastCommitted => trivial
  | reply k style certStatus =>
    intro query item hquery hmem hid hcert
    obtain ⟨hgone, -⟩ | ⟨index, found, hitem, hfound, heq⟩ :=
      reply_cases hquery style certStatus
    · exact absurd hid (hgone item hmem)
    obtain rfl : found = item :=
      h.unique.eq_of_mem (List.mem_of_getElem? hitem) hmem (hfound.trans hid.symm)
    have hlt : index < u.items.length := (List.getElem?_eq_some_iff.1 hitem).1
    have hitems : (u.step (.reply k style certStatus)).items =
        u.items.set index (found.applyReply query style certStatus) := by
      show (u.updateSSLStatusForItemWithID k style certStatus).items = _
      rw [heq, didChange_items]
    have hqueries : (u.step (.reply k style certStatus)).queries = u.queries.eraseIdx k := by
      show (u.updateSSLStatusForItemWithID k style certStatus).queries = _
      rw [heq, didChange_queries]
    have hwritten : (u.step (.reply k style certStatus)).items[index]? =
        some (found.applyReply query style certStatus) := by
      rw [hitems]
      exact List.getElem?_set_self hlt
    have hunique : Keyed.Unique NavigationItem.uniqueID
        (u.step (.reply k style certStatus)).items := by
      rw [hitems]
      exact h.unique.set hitem (applyReply_uniqueID found query style certStatus)
    -- an unknown style with its query gone shows in some continuation
    have hwaits : ∀ item', found.applyReply query style certStatus = item' →
        item'.ssl.certificate = some query.cert → item'.ssl.securityStyle = .unknown →
          item'.query query.cert ∈ u.queries.eraseIdx k := by
      rintro item' rfl hcert' hunknown
      by_contra hlost
      rw [← hqueries] at hlost
      obtain ⟨more, hrun, hnot⟩ := lost_query_shows hunique hwritten hcert' hunknown hlost
      exact hnot (hrest more hrun).2
    by_cases haccepts : found.accepts query = true
    · rw [if_pos haccepts]
      have happly := applyReply_of_accepts haccepts style certStatus
      refine ⟨fun hknown => ?_, fun hunknown => ?_⟩
      swap
      · have hlast := hwaits _ happly hcert hunknown
        exact hlast
      -- a style taken over for another host shows at once
      have hstatus := (hrest [] trivial).1.statuses _ (List.mem_of_getElem? hwritten)
      rw [happly] at hstatus
      have hanswer := Option.some.inj (hstatus query.cert hcert hknown)
      exact (congrArg Answer.host hanswer).symm
    · rw [if_neg haccepts]
      exact hwaits _ (applyReply_of_not haccepts style certStatus) hcert

/-! ## Runs -/

theorem inv_exec {calls : List (Call Cert)}
    (hrun : machine.Run (initWithNavigationManager : SSLStatusUpdater Cert) calls)
    (htimely : machine.Always Timely initWithNavigationManager calls) :
    Inv (machine.exec initWithNavigationManager calls) :=
  Machine.Guarded.invariant (I := Inv) (P := Timely)
    (fun _ _ hinv hpre htimely => hinv.step hpre htimely) Inv.initWithNavigationManager hrun
    htimely

/-- **Timely replies keep every status right, and the first reply that is not timely leads to
a wrong one.** -/
theorem queried_of_timely {calls : List (Call Cert)}
    (hrun : machine.Run (initWithNavigationManager : SSLStatusUpdater Cert) calls)
    (htimely : machine.Always Timely initWithNavigationManager calls) :
    machine.Always (fun u call => (u.step call).Queried) initWithNavigationManager calls ∧
      ∀ call, (machine.exec initWithNavigationManager calls).Pre call →
        ¬ (machine.exec initWithNavigationManager calls).Timely call →
          ∃ more, machine.Run initWithNavigationManager (calls ++ call :: more) ∧
            ¬ machine.Always (fun u call => (u.step call).Queried) initWithNavigationManager
              (calls ++ call :: more) := by
  refine ⟨Machine.Guarded.always_of_invariant (I := Inv) (P := Timely)
    (fun _ _ hinv hpre htimely => hinv.step hpre htimely)
    (fun _ _ hinv hpre htimely => (hinv.step hpre htimely).queried)
    Inv.initWithNavigationManager hrun htimely, fun call hpre huntimely => ?_⟩
  obtain ⟨more, hmore, hnot⟩ := (inv_exec hrun htimely).untimely_shows huntimely
  refine ⟨more, (Machine.always_append _ _ _ _).2 ⟨hrun, hpre, hmore⟩, fun hqueried => ?_⟩
  exact hnot ((Machine.always_append _ _ _ _).1 hqueried).2

/-- A page is reloaded: the query made for it is answered while a redirect has taken the URL
to another host, and a second redirect takes it back. -/
def droppedReply : List (Call Nat) :=
  [.commit [{ uniqueID := 1, url := ⟨"https", "a.com"⟩ }] 0, .updateSSLStatus "a.com" (some 7) true,
    .changeURL 0 ⟨"https", "login.com"⟩, .reply 0 .authenticated 0,
    .changeURL 0 ⟨"https", "a.com"⟩]

/-- The style stays unknown: an update with the same certificate asks nothing. -/
theorem droppedReply_unknown :
    machine.Run initWithNavigationManager droppedReply ∧
      (let u := machine.exec initWithNavigationManager droppedReply
       u.step (.updateSSLStatus "a.com" (some 7) true) = u ∧ u.queries = [] ∧
         u.items.map (fun item => item.ssl.securityStyle) = [.unknown]) ∧
      ¬ machine.Always (fun u call => (u.step call).Queried) initWithNavigationManager
        droppedReply := by
  refine ⟨by decide, by decide, fun hqueried => ?_⟩
  have hlast := hqueried.2.2.2.2.1.outstanding _ 7 rfl rfl rfl rfl
  exact absurd hlast List.not_mem_nil

/-- The query is answered before the redirect, and that for the next host is on its way. -/
private def answered : List (Call Nat) :=
  droppedReply.take 2 ++ [.reply 0 .authenticated 0, .changeURL 0 ⟨"https", "login.com"⟩,
    .updateSSLStatus "login.com" (some 7) true]

theorem queried_of_timely_reload :
    machine.Always (fun u call => (u.step call).Queried) initWithNavigationManager answered ∧
      ∀ call, (machine.exec initWithNavigationManager answered).Pre call →
        ¬ (machine.exec initWithNavigationManager answered).Timely call →
          ∃ more, machine.Run initWithNavigationManager (answered ++ call :: more) ∧
            ¬ machine.Always (fun u call => (u.step call).Queried) initWithNavigationManager
              (answered ++ call :: more) := by
  have htimely : Timely (machine.exec (initWithNavigationManager : SSLStatusUpdater Nat)
      (droppedReply.take 2)) (.reply 0 .authenticated 0) := by
    intro query item hquery hitem _ _
    obtain rfl := Option.some.inj hquery
    obtain rfl := List.mem_singleton.1 hitem
    exact ⟨fun _ => rfl, fun hunknown => by cases hunknown⟩
  exact @queried_of_timely _ _ answered (by decide)
    ⟨trivial, trivial, htimely, trivial, trivial, trivial⟩

end SSLStatusUpdater

end IosChrome.Security

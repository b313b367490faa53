import IosChrome.Lib.EventLog

/-!
# Requests and their answers

A history of requests, each for a key and with a value, and of answers to
them. A later request for a key takes the place of an earlier one, an answer
settles the key: `owed` is what is still to be answered.

A component that forgets nothing keeps a table equal to `owed` of its history.
What such a table says about the history is `settled_of_owed_none`: when nothing
is owed for a key, each request for it was answered with its value, or replaced
by a later one.
-/

namespace IosChrome.Lib

/-- One entry of the history. An answer carries what was owed for the key when
it was given, and its result. -/
inductive Entry (K V A : Type) where
  | request (key : K) (value : V)
  | answer (key : K) (value : Option V) (result : A)
  deriving DecidableEq, Repr

variable {K V A : Type} [DecidableEq K]

/-- What one entry does to the table of what is owed. -/
def owedStep (owed : K → Option V) : Entry K V A → K → Option V
  | .request key value => fun k => if k = key then some value else owed k
  | .answer key _ _ => fun k => if k = key then none else owed k

/-- What is owed after a history. -/
def owed (history : List (Entry K V A)) : K → Option V :=
  history.foldl owedStep fun _ => none

/-- Every answer was given to what was owed. -/
def Faithful (history : List (Entry K V A)) : Prop :=
  ∀ pre key value result post, history = pre ++ .answer key value result :: post →
    value = owed pre key

/-- Each request for the key was answered with its value afterwards, unless
another request for the key came after it. -/
def Settled (history : List (Entry K V A)) (key : K) : Prop :=
  ∀ pre value post, history = pre ++ .request key value :: post →
    (∃ value', .request key value' ∈ post) ∨ ∃ result, .answer key (some value) result ∈ post

theorem owed_append_singleton (history : List (Entry K V A)) (entry : Entry K V A) :
    owed (history ++ [entry]) = owedStep (owed history) entry :=
  List.foldl_append

theorem faithful_append_request {history : List (Entry K V A)} (h : Faithful history) (key : K)
    (value : V) : Faithful (history ++ [.request key value]) := by
  intro pre k v result post hsplit
  rcases concat_split hsplit with ⟨_, _, hlast⟩ | ⟨post', _, hsplit'⟩
  · exact absurd hlast (by simp)
  · exact h pre k v result post' hsplit'

theorem faithful_append_answer {history : List (Entry K V A)} (h : Faithful history) (key : K)
    (result : A) : Faithful (history ++ [.answer key (owed history key) result]) := by
  intro pre k v r post hsplit
  rcases concat_split hsplit with ⟨_, rfl, hlast⟩ | ⟨post', _, hsplit'⟩
  · cases hlast
    rfl
  · exact h pre k v r post' hsplit'

/-- A request that was neither replaced nor answered is still owed: the
induction is on what came after it. -/
theorem owed_of_not_settled {pre : List (Entry K V A)} {key : K} {value : V}
    (post : List (Entry K V A)) :
    Faithful (pre ++ .request key value :: post) →
    (∀ value', .request key value' ∉ post) →
    (∀ result, .answer key (some value) result ∉ post) →
    owed (pre ++ .request key value :: post) key = some value := by
  induction post using List.reverseRecOn with
  | nil =>
    intro _ _ _
    rw [owed_append_singleton]
    exact if_pos rfl
  | append_singleton post last ih =>
    intro hfaithful hrequest hanswer
    rw [show pre ++ Entry.request key value :: (post ++ [last]) =
      (pre ++ .request key value :: post) ++ [last] by simp] at hfaithful ⊢
    have howed := ih
      (fun pre' k v r post' hsplit => hfaithful pre' k v r (post' ++ [last]) (by rw [hsplit]; simp))
      (fun value' hmem => hrequest value' (List.mem_append_left _ hmem))
      (fun result hmem => hanswer result (List.mem_append_left _ hmem))
    rw [owed_append_singleton]
    cases last with
    | request k v =>
      have hne : key ≠ k := by
        rintro rfl
        exact hrequest v (by simp)
      exact (if_neg hne).trans howed
    | answer k v result =>
      have hne : key ≠ k := by
        rintro rfl
        have hv := hfaithful _ key v result [] rfl
        rw [howed] at hv
        exact hanswer result (by rw [hv]; simp)
      exact (if_neg hne).trans howed

/-- **Where nothing is owed, everything was settled.** -/
theorem settled_of_owed_none {history : List (Entry K V A)} (h : Faithful history) {key : K}
    (howed : owed history key = none) : Settled history key := by
  intro pre value post hsplit
  by_contra hnot
  rw [not_or, not_exists, not_exists] at hnot
  rw [hsplit] at h howed
  rw [owed_of_not_settled post h hnot.1 hnot.2] at howed
  exact absurd howed (by simp)

end IosChrome.Lib

import Mathlib
import ScoreKeeper.Proofs.Store.Runs
import ScoreKeeper.Proofs.Board.History

/-!
# ScoreKeeper — calls on one store, run by threads under its lock

A store serves many threads at once. Each call is a thread of small steps: an append first
decodes its line, touching nothing shared; then every call takes the store's one lock, reads the
backend, and an append merges, encodes and writes; last the lock is given back. A scheduler
picks which thread steps next, in any order; a thread that wants the lock while another holds it
cannot move.

Whatever the schedule, once every thread has finished, the store and every answer are those of
running the calls one at a time, in the order the threads took the lock; an append whose line
does not decode never takes the lock and changes nothing. In particular appends of up to 999
scores of distinct players to one empty leaderboard leave all of them on it, none lost and none
twice.

## The architecture

* **`decodeMerge`**, **`TopicStore.persist`** and **`StoreCall.runAlone_append`** — an append
  cut at the lock: the decode before it, the read and the write inside it.
* **`Threads`**, **`Stage`** and **`Threads.next`** — the threads, what each has done, and one
  step of one thread. **`Stage.finish`** is what is left of a call once its thread holds the
  lock, run without interruption.
* **`Serializes`** — the invariant: finished calls answered what they answer run alone after
  the calls that took the lock before them, the free store is the serial run, and the holder's
  remaining steps finish its call as running it alone would. It is kept by an outside step
  (`Serializes.outside_step`), by taking the lock (`Serializes.take`), by a step inside the lock
  (`Serializes.inside_step`) and by giving it back (`Serializes.release`); **`Serializes.next`**
  dispatches on the thread's stage and **`Serializes.run`** carries it along a schedule.
* **`Serializes.finished_run`** — the serial reading of a finished run, and
  **`appends_keep_every_score`** — the appends of distinct players, through the serial run on the
  shelf (`Shelf.board_serialStore`) and the board lemma `Records.perm_of_names_nodup`.
* **`threads_run_serially`** — both, for every set of calls and every schedule.
-/

namespace ScoreKeeper

/-! ## An append cut at the lock -/

/-- What an append's line decodes to, as the document it makes of the topic's stored text: a
leaderboard takes the score by `add`, a pack the line by `push`. -/
def decodeMerge (k : ChecksumKey) (t : Topic) (line : String) :
    Except CodecError (String → Document) :=
  match t.kind with
  | .leaderboard => (Score.decodeLine k line).map fun e text =>
      .leaderboard ((Leaderboard.ofList (decodeDocument k text)).add e).2
  | .pack => (Note.decodeLine k line).map fun n text =>
      .pack ((Pack.ofList (decodeDocument k text)).push n).2

/-- The write that ends an append: prepare the topic's storage, then write the document's text;
the answer and the store after. -/
def TopicStore.persist (s : TopicStore) (t : Topic) (doc : Document) :
    Except StoreError Document × TopicStore :=
  let b := s.backend.prepare t
  match b.write t (Text.utf8 (doc.encode s.key)) with
  | .ok b' => (.ok doc, { s with backend := b' })
  | .error e => (.error e, { s with backend := b })

theorem TopicStore.persist_key (s : TopicStore) (t : Topic) (doc : Document) :
    (s.persist t doc).2.key = s.key := by
  unfold persist
  dsimp only
  split <;> rfl

theorem TopicStore.merged_eq (s : TopicStore) (t : Topic) (line : String) :
    s.merged t line =
      match decodeMerge s.key t line with
      | .error err => .error (.rejected err)
      | .ok m => (s.loadText t).map m := by
  unfold merged decodeMerge
  cases t.kind with
  | leaderboard =>
    cases Score.decodeLine s.key line <;> cases s.loadText t <;> rfl
  | pack =>
    cases Note.decodeLine s.key line <;> cases s.loadText t <;> rfl

/-- **An append run alone**, cut where the lock is taken: the line's decoding, then the read of
the stored text, the merge and the write. -/
theorem StoreCall.runAlone_append (s : TopicStore) (t : Topic) (raw : String) :
    (StoreCall.append t raw).runAlone s =
      match decodeMerge s.key t (trimLine raw) with
      | .error err => (.document (.error (.rejected err)), s)
      | .ok m =>
        match s.loadText t with
        | .error e => (.document (.error e), s)
        | .ok text => Prod.map .document id (s.persist t (m text)) := by
  show Prod.map CallAnswer.document id (s.append t raw) = _
  -- the append's write is `persist` once the merge is cut at the lock
  unfold TopicStore.append
  rw [TopicStore.merged_eq]
  cases decodeMerge s.key t (trimLine raw) with
  | error err => rfl
  | ok m => cases s.loadText t <;> rfl

/-! ## Threads -/

/-- Where a thread is in its call: not started; an append waiting for the lock with the merge its
line decoded to; holding the lock before the read (`holding` for an append, `locked` for a read
or a listing), after it (`loaded`), or with the merged document to write (`encoded`); holding
its answer before giving the lock back (`releasing`); finished (`done`). -/
inductive Stage where
  | start
  | waiting (merge : String → Document)
  | holding (merge : String → Document)
  | loaded (merge : String → Document) (text : String)
  | encoded (doc : Document)
  | locked
  | releasing (a : CallAnswer)
  | done (a : CallAnswer)

/-- Whether a thread at this stage holds the lock. -/
def Stage.holdsLock : Stage → Bool
  | .holding _ | .loaded _ _ | .encoded _ | .locked | .releasing _ => true
  | .start | .waiting _ | .done _ => false

/-- Whether a thread at this stage has finished. -/
def Stage.isDone : Stage → Bool
  | .done _ => true
  | _ => false

/-- What is left of a call once its thread holds the lock, run without interruption: the answer
and the store after. -/
def Stage.finish (op : StoreCall) (s : TopicStore) : Stage → CallAnswer × TopicStore
  | .holding m =>
    match op with
    | .append t _ =>
      match s.loadText t with
      | .error e => (.document (.error e), s)
      | .ok text => Prod.map .document id (s.persist t (m text))
    | op => op.runAlone s
  | .loaded m text =>
    match op with
    | .append t _ => Prod.map .document id (s.persist t (m text))
    | op => op.runAlone s
  | .encoded doc =>
    match op with
    | .append t _ => Prod.map .document id (s.persist t doc)
    | op => op.runAlone s
  | .releasing a => (a, s)
  | _ => op.runAlone s

/-- Threads calling one store: the store they share, which thread holds its lock, where each
thread is, and (kept for the statement only) the threads in the order they took the lock. -/
structure Threads (n : Nat) where
  store : TopicStore
  holder : Option (Fin n)
  stage : Fin n → Stage
  order : List (Fin n)

namespace Threads

variable {n : Nat}

/-- No thread has started and the lock is free. -/
def init (s : TopicStore) : Threads n :=
  ⟨s, none, fun _ => .start, []⟩

/-- Moves one thread to a stage. -/
def update (c : Threads n) (i : Fin n) (st : Stage) : Threads n :=
  { c with stage := Function.update c.stage i st }

/-- A thread takes the free lock and moves to a stage. -/
def take (c : Threads n) (i : Fin n) (st : Stage) : Threads n :=
  { c.update i st with holder := some i, order := c.order ++ [i] }

/-- One step of thread `i` running call `ops i`. A thread that wants the lock while it is taken,
or that has finished, does not move. -/
def next (ops : Fin n → StoreCall) (c : Threads n) (i : Fin n) : Threads n :=
  match c.stage i, ops i with
  -- outside the lock: an append decodes its line, touching nothing shared
  | .start, .append t raw =>
    match decodeMerge c.store.key t (trimLine raw) with
    | .error err => c.update i (.done (.document (.error (.rejected err))))
    | .ok m => c.update i (.waiting m)
  -- taking the lock, when it is free
  | .start, .read _ | .start, .list _ => if c.holder = none then c.take i .locked else c
  | .waiting m, _ => if c.holder = none then c.take i (.holding m) else c
  -- inside the lock: read the backend, merge and encode, write
  | .holding m, .append t _ =>
    match c.store.loadText t with
    | .error e => c.update i (.releasing (.document (.error e)))
    | .ok text => c.update i (.loaded m text)
  | .loaded m text, _ => c.update i (.encoded (m text))
  | .encoded doc, .append t _ =>
    { c.update i (.releasing (.document (c.store.persist t doc).1)) with
      store := (c.store.persist t doc).2 }
  | .locked, .read t => c.update i (.releasing (.document (c.store.read t)))
  | .locked, .list kind => c.update i (.releasing (.topics (c.store.list kind)))
  -- giving the lock back
  | .releasing a, _ => { c.update i (.done a) with holder := none }
  | _, _ => c

/-- The threads after the scheduler has picked them in turn. -/
def run (ops : Fin n → StoreCall) (c : Threads n) (sched : List (Fin n)) : Threads n :=
  sched.foldl (next ops) c

@[simp] theorem update_store (c : Threads n) (i : Fin n) (st : Stage) :
    (c.update i st).store = c.store := rfl

@[simp] theorem update_holder (c : Threads n) (i : Fin n) (st : Stage) :
    (c.update i st).holder = c.holder := rfl

@[simp] theorem update_order (c : Threads n) (i : Fin n) (st : Stage) :
    (c.update i st).order = c.order := rfl

@[simp] theorem update_stage_self (c : Threads n) (i : Fin n) (st : Stage) :
    (c.update i st).stage i = st := by
  simp [update]

theorem update_stage_of_ne (c : Threads n) {i j : Fin n} (h : j ≠ i) (st : Stage) :
    (c.update i st).stage j = c.stage j := by
  simp [update, h]

@[simp] theorem take_store (c : Threads n) (i : Fin n) (st : Stage) :
    (c.take i st).store = c.store := rfl

@[simp] theorem take_holder (c : Threads n) (i : Fin n) (st : Stage) :
    (c.take i st).holder = some i := rfl

@[simp] theorem take_order (c : Threads n) (i : Fin n) (st : Stage) :
    (c.take i st).order = c.order ++ [i] := rfl

@[simp] theorem take_stage_self (c : Threads n) (i : Fin n) (st : Stage) :
    (c.take i st).stage i = st :=
  c.update_stage_self i st

theorem take_stage_of_ne (c : Threads n) {i j : Fin n} (h : j ≠ i) (st : Stage) :
    (c.take i st).stage j = c.stage j :=
  c.update_stage_of_ne h st

/-- A finished thread does not move. -/
theorem next_of_done (ops : Fin n → StoreCall) (c : Threads n) {i : Fin n} {a : CallAnswer}
    (h : c.stage i = .done a) : c.next ops i = c := by
  simp only [next, h]

end Threads

/-- The store after the calls have run one at a time, in the order given. -/
def serialStore {n : Nat} (ops : Fin n → StoreCall) (s₀ : TopicStore) (is : List (Fin n)) :
    TopicStore :=
  is.foldl (fun s i => ((ops i).runAlone s).2) s₀

theorem serialStore_append_singleton {n : Nat} (ops : Fin n → StoreCall) (s₀ : TopicStore)
    (pre : List (Fin n)) (i : Fin n) :
    serialStore ops s₀ (pre ++ [i]) = ((ops i).runAlone (serialStore ops s₀ pre)).2 := by
  simp [serialStore, List.foldl_append]

/-! ## The invariant -/

/-- Where a thread stands before it has taken the lock: not started, an append waiting with the
merge its line decoded to, or an append refused at decoding. -/
inductive Outside (op : StoreCall) (key : ChecksumKey) : Stage → Prop
  | start : Outside op key .start
  | waiting {t : Topic} {raw : String} {m : String → Document} :
      op = .append t raw → decodeMerge key t (trimLine raw) = .ok m → Outside op key (.waiting m)
  | refused {t : Topic} {raw : String} {err : CodecError} :
      op = .append t raw → decodeMerge key t (trimLine raw) = .error err →
      Outside op key (.done (.document (.error (.rejected err))))

/-- **The invariant of the threads**: they behave as the calls run alone, one after another, in
the order their threads took the lock. Finished calls answered what they answer run after the
calls before them; while the lock is free the store is the serial run; the holder's remaining
steps finish its call as running it alone after the calls before it would; a thread that has not
taken the lock stands outside it, and an append took the lock only if its line decoded. -/
structure Serializes {n : Nat} (ops : Fin n → StoreCall) (s₀ : TopicStore) (c : Threads n) :
    Prop where
  key : c.store.key = s₀.key
  nodup : c.order.Nodup
  outside : ∀ i, i ∉ c.order → Outside (ops i) s₀.key (c.stage i)
  acquired : ∀ i ∈ c.order, ∀ t raw, ops i = .append t raw →
    ∃ m, decodeMerge s₀.key t (trimLine raw) = .ok m
  finished : ∀ pre i post, c.order = pre ++ i :: post → c.holder ≠ some i →
    c.stage i = .done ((ops i).runAlone (serialStore ops s₀ pre)).1
  free : c.holder = none → c.store = serialStore ops s₀ c.order
  held : ∀ i, c.holder = some i → ∃ pre, c.order = pre ++ [i] ∧ (c.stage i).holdsLock = true ∧
    (c.stage i).finish (ops i) c.store = (ops i).runAlone (serialStore ops s₀ pre)

/-! ## The lock order -/

theorem eq_append_cons_of_append_singleton {α : Type} {l pre post : List α} {i j : α}
    (h : l ++ [i] = pre ++ j :: post) (hne : j ≠ i) : ∃ post', l = pre ++ j :: post' := by
  rcases List.eq_nil_or_concat' post with rfl | ⟨post', x, rfl⟩
  · exact absurd (List.append_singleton_inj.1 h).2.symm hne
  · have h' : l ++ [i] = (pre ++ j :: post') ++ [x] := by rw [h]; simp
    exact ⟨post', (List.append_singleton_inj.1 h').1⟩

/-- The last of a list without repeats stands nowhere else. -/
theorem eq_of_append_singleton_nodup {α : Type} {l pre post : List α} {i : α}
    (hnd : (l ++ [i]).Nodup) (h : l ++ [i] = pre ++ i :: post) : pre = l ∧ post = [] := by
  rcases List.eq_nil_or_concat' post with rfl | ⟨post', x, rfl⟩
  · exact ⟨(List.append_singleton_inj.1 h).1.symm, rfl⟩
  · -- otherwise `i` would stand twice
    have h' : l ++ [i] = (pre ++ i :: post') ++ [x] := by rw [h]; simp
    obtain ⟨hl, rfl⟩ := List.append_singleton_inj.1 h'
    rw [hl, List.append_assoc, List.cons_append] at hnd
    have hi : i ∉ post' ++ [i] := (List.nodup_cons.1 (hnd.sublist (List.sublist_append_right _ _))).1
    exact absurd (by simp) hi

theorem Stage.holdsLock_eq_false_of_isDone {st : Stage} (h : st.isDone = true) :
    st.holdsLock = false := by
  cases st <;> simp_all [Stage.isDone, Stage.holdsLock]

/-! ## The steps keep the invariant

Each lemma below is one kind of step: a move outside the lock, taking it, a move inside it and
giving it back. `Serializes.next` finds which one a thread's step is from its stage. -/

namespace Serializes

variable {n : Nat} {ops : Fin n → StoreCall} {s₀ : TopicStore} {c : Threads n}

theorem mem_of_holder (h : Serializes ops s₀ c) {i : Fin n} (hi : c.holder = some i) :
    i ∈ c.order := by
  obtain ⟨pre, horder, -⟩ := h.held i hi
  rw [horder]
  exact List.mem_append_right pre (List.mem_singleton_self i)

/-- A thread that took the lock and does not hold it has finished. -/
theorem done_of_mem (h : Serializes ops s₀ c) {i : Fin n} (hi : i ∈ c.order)
    (hhold : c.holder ≠ some i) : ∃ a, c.stage i = .done a := by
  obtain ⟨pre, post, hsplit⟩ := List.append_of_mem hi
  exact ⟨_, h.finished pre i post hsplit hhold⟩

/-- **A step outside the lock**: a thread that has not taken the lock moves to another place
outside it, touching nothing shared. -/
theorem outside_step (h : Serializes ops s₀ c) {i : Fin n} (hi : i ∉ c.order) {st : Stage}
    (hst : Outside (ops i) s₀.key st) : Serializes ops s₀ (c.update i st) where
  key := h.key
  nodup := h.nodup
  outside j hj := by
    by_cases hji : j = i
    · rw [hji, Threads.update_stage_self]
      exact hst
    · rw [Threads.update_stage_of_ne c hji]
      exact h.outside j hj
  acquired := h.acquired
  finished pre j post hsplit hhold := by
    have hji : j ≠ i := by
      rintro rfl
      exact hi (hsplit ▸ List.mem_append_right pre (List.mem_cons_self ..))
    rw [Threads.update_stage_of_ne c hji]
    exact h.finished pre j post hsplit hhold
  free := h.free
  held j hj := by
    have hji : j ≠ i := by
      rintro rfl
      exact hi (h.mem_of_holder hj)
    rw [Threads.update_stage_of_ne c hji]
    exact h.held j hj

/-- **Taking the free lock**: the thread joins the order last, and what is left of its call
finishes it as running it alone on the store, which is the serial run of the calls before. -/
theorem take (h : Serializes ops s₀ c) {i : Fin n} (hi : i ∉ c.order) (hfree : c.holder = none)
    {st : Stage} (hst : st.holdsLock = true)
    (hfinish : st.finish (ops i) c.store = (ops i).runAlone c.store)
    (hacq : ∀ t raw, ops i = .append t raw → ∃ m, decodeMerge s₀.key t (trimLine raw) = .ok m) :
    Serializes ops s₀ (c.take i st) where
  key := h.key
  nodup := by
    rw [Threads.take_order, List.nodup_append]
    refine ⟨h.nodup, List.nodup_singleton i, fun a ha b hb => ?_⟩
    rw [List.mem_singleton.1 hb]
    rintro rfl
    exact hi ha
  outside j hj := by
    rw [Threads.take_order, List.mem_append, List.mem_singleton, not_or] at hj
    rw [Threads.take_stage_of_ne c hj.2]
    exact h.outside j hj.1
  acquired j hj := by
    rcases List.mem_append.1 hj with hj | hj
    · exact h.acquired j hj
    · rw [List.mem_singleton.1 hj]
      exact hacq
  finished pre j post hsplit hhold := by
    have hji : j ≠ i := by
      rintro rfl
      exact hhold rfl
    obtain ⟨post', hsplit'⟩ := eq_append_cons_of_append_singleton hsplit hji
    rw [Threads.take_stage_of_ne c hji]
    exact h.finished pre j post' hsplit' (by rw [hfree]; exact nofun)
  free hnone := nomatch hnone
  held j hj := by
    obtain rfl : i = j := Option.some_injective _ hj
    refine ⟨c.order, rfl, by rw [Threads.take_stage_self]; exact hst, ?_⟩
    rw [Threads.take_stage_self, Threads.take_store, hfinish, h.free hfree]

/-- **A step inside the lock**: the holder moves on, perhaps writing the store, and what is left
of its call finishes it as what was left before. -/
theorem inside_step (h : Serializes ops s₀ c) {i : Fin n} (hheld : c.holder = some i)
    {st : Stage} {s : TopicStore} (hst : st.holdsLock = true) (hkey : s.key = c.store.key)
    (hfinish : st.finish (ops i) s = (c.stage i).finish (ops i) c.store) :
    Serializes ops s₀ { c.update i st with store := s } where
  key := hkey.trans h.key
  nodup := h.nodup
  outside j hj := by
    have hji : j ≠ i := by
      rintro rfl
      exact hj (h.mem_of_holder hheld)
    dsimp only
    rw [Threads.update_stage_of_ne c hji]
    exact h.outside j hj
  acquired := h.acquired
  finished pre j post hsplit hhold := by
    have hji : j ≠ i := by
      rintro rfl
      exact hhold hheld
    dsimp only
    rw [Threads.update_stage_of_ne c hji]
    exact h.finished pre j post hsplit hhold
  free hnone := nomatch hheld.symm.trans hnone
  held j hj := by
    obtain rfl : i = j := Option.some_injective _ (hheld.symm.trans hj)
    obtain ⟨pre, horder, -, hfin⟩ := h.held i hheld
    refine ⟨pre, horder, ?_, ?_⟩
    · dsimp only
      rw [Threads.update_stage_self]
      exact hst
    · dsimp only
      rw [Threads.update_stage_self, hfinish, hfin]

/-- **Giving the lock back**: the holder finishes with the answer it holds, and the free store is
the serial run up to and including its call. -/
theorem release (h : Serializes ops s₀ c) {i : Fin n} (hheld : c.holder = some i)
    {a : CallAnswer} (hst : c.stage i = .releasing a) :
    Serializes ops s₀ { c.update i (.done a) with holder := none } where
  key := h.key
  nodup := h.nodup
  outside j hj := by
    have hji : j ≠ i := by
      rintro rfl
      exact hj (h.mem_of_holder hheld)
    dsimp only
    rw [Threads.update_stage_of_ne c hji]
    exact h.outside j hj
  acquired := h.acquired
  finished pre j post hsplit _ := by
    dsimp only
    by_cases hji : j = i
    · -- the holder is the last to have taken the lock, so the calls before it are `pre`
      subst hji
      obtain ⟨pre', horder, -, hfin⟩ := h.held j hheld
      obtain ⟨rfl, -⟩ := eq_of_append_singleton_nodup (horder ▸ h.nodup) (horder.symm.trans hsplit)
      rw [hst] at hfin
      rw [Threads.update_stage_self, ← hfin]
      rfl
    · rw [Threads.update_stage_of_ne c hji]
      exact h.finished pre j post hsplit (by rw [hheld]; exact fun hij => hji (Option.some_injective _ hij).symm)
  free _ := by
    obtain ⟨pre, horder, -, hfin⟩ := h.held i hheld
    rw [hst] at hfin
    show c.store = serialStore ops s₀ c.order
    rw [horder, serialStore_append_singleton, ← hfin]
    rfl
  held _ hj := nomatch hj

/-- **The step of a thread that has not taken the lock**: an append decodes its line, a read or
a listing takes the free lock, a waiting append takes it; a refused append stays finished. -/
theorem next_outside (h : Serializes ops s₀ c) {i : Fin n} (hi : i ∉ c.order) :
    Serializes ops s₀ (c.next ops i) := by
  have hout := h.outside i hi
  generalize hst : c.stage i = st at hout
  cases hout with
  | start =>
    cases hop : ops i with
    | append t raw =>
      -- the decode reads only the key, which is the key of the start
      have hnext : c.next ops i = match decodeMerge s₀.key t (trimLine raw) with
          | .error err => c.update i (.done (.document (.error (.rejected err))))
          | .ok m => c.update i (.waiting m) := by
        simp only [Threads.next, hst, hop, h.key]
      rw [hnext]
      cases hd : decodeMerge s₀.key t (trimLine raw) with
      | error err => exact h.outside_step hi (.refused hop hd)
      | ok m => exact h.outside_step hi (.waiting hop hd)
    | read _ | list _ =>
      -- a read or a listing takes the lock at once, if it is free
      simp only [Threads.next, hst, hop]
      split
      · next hfree =>
        exact h.take hi hfree rfl (by rw [hop]; rfl) fun _ _ happ => nomatch hop.symm.trans happ
      · exact h
  | @waiting t raw m hop hd =>
    simp only [Threads.next, hst]
    split
    · next hfree =>
      -- holding the lock, the append finishes by reading the store it found
      have hfinish : (Stage.holding m).finish (ops i) c.store = (ops i).runAlone c.store := by
        rw [hop, StoreCall.runAlone_append, h.key, hd]
        rfl
      refine h.take hi hfree rfl hfinish fun t' raw' happ => ?_
      obtain ⟨rfl, rfl⟩ := StoreCall.append.inj (hop.symm.trans happ)
      exact ⟨_, hd⟩
    · exact h
  | refused hop hd => rw [Threads.next_of_done ops c hst]; exact h

/-- **The step of the holder**: a read of the backend, the merge, the write, or giving the lock
back. -/
theorem next_holder (h : Serializes ops s₀ c) {i : Fin n} (hheld : c.holder = some i) :
    Serializes ops s₀ (c.next ops i) := by
  obtain ⟨-, -, hlock, -⟩ := h.held i hheld
  cases hst : c.stage i with
  | start | waiting _ | done _ => simp [hst, Stage.holdsLock] at hlock
  | holding m =>
    cases hop : ops i with
    | append t raw =>
      cases hload : c.store.loadText t with
      | error e =>
        have hnext : c.next ops i = c.update i (.releasing (.document (.error e))) := by
          simp only [Threads.next, hst, hop, hload]
        rw [hnext]
        exact h.inside_step hheld rfl rfl (by rw [hst, hop]; simp only [Stage.finish, hload])
      | ok text =>
        have hnext : c.next ops i = c.update i (.loaded m text) := by
          simp only [Threads.next, hst, hop, hload]
        rw [hnext]
        exact h.inside_step hheld rfl rfl (by rw [hst, hop]; simp only [Stage.finish, hload])
    | read _ | list _ =>
      -- only an append reaches this stage; any other call does not move from it
      simp only [Threads.next, hst, hop]
      exact h
  | loaded m text =>
    have hnext : c.next ops i = c.update i (.encoded (m text)) := by
      simp only [Threads.next, hst]
    rw [hnext]
    refine h.inside_step hheld rfl rfl ?_
    rw [hst]
    cases ops i <;> rfl
  | encoded doc =>
    cases hop : ops i with
    | append t raw =>
      simp only [Threads.next, hst, hop]
      exact h.inside_step hheld rfl (TopicStore.persist_key _ _ _) (by rw [hst, hop]; rfl)
    | read _ | list _ => simp only [Threads.next, hst, hop]; exact h
  | locked =>
    cases hop : ops i with
    | read _ | list _ =>
      simp only [Threads.next, hst, hop]
      exact h.inside_step hheld rfl rfl (by rw [hst, hop]; rfl)
    | append _ _ => simp only [Threads.next, hst, hop]; exact h
  | releasing a =>
    simp only [Threads.next, hst]
    exact h.release hheld hst

/-- **The step lemma**: whichever thread the scheduler picks, its step keeps the invariant. -/
theorem next (h : Serializes ops s₀ c) (i : Fin n) : Serializes ops s₀ (c.next ops i) := by
  by_cases hi : i ∈ c.order
  · by_cases hheld : c.holder = some i
    · exact h.next_holder hheld
    · -- a thread that took the lock and gave it back has finished and does not move
      obtain ⟨a, hdone⟩ := h.done_of_mem hi hheld
      rw [Threads.next_of_done ops c hdone]
      exact h
  · exact h.next_outside hi

/-- **The run lemma**: every schedule keeps the invariant. -/
theorem run (h : Serializes ops s₀ c) (sched : List (Fin n)) :
    Serializes ops s₀ (c.run ops sched) := by
  induction sched generalizing c with
  | nil => exact h
  | cons i sched ih => exact ih (h.next i)

end Serializes

/-- The invariant holds before any thread has moved. -/
theorem serializes_init {n : Nat} (ops : Fin n → StoreCall) (s₀ : TopicStore) :
    Serializes ops s₀ (Threads.init s₀) where
  key := rfl
  nodup := List.nodup_nil
  outside _ _ := .start
  acquired _ hi := nomatch hi
  finished pre _ _ hsplit := by simp [Threads.init] at hsplit
  free _ := rfl
  held _ hi := nomatch hi

namespace Serializes

variable {n : Nat} {ops : Fin n → StoreCall} {s₀ : TopicStore} {c : Threads n}

/-- Once every thread has finished, the lock is free. -/
theorem holder_eq_none (h : Serializes ops s₀ c) (hdone : ∀ i, (c.stage i).isDone = true) :
    c.holder = none := by
  cases hh : c.holder with
  | none => rfl
  | some i =>
    obtain ⟨pre, -, hlock, -⟩ := h.held i hh
    rw [Stage.holdsLock_eq_false_of_isDone (hdone i)] at hlock
    exact absurd hlock Bool.false_ne_true

/-- A finished thread that never took the lock is an append whose line was refused. -/
theorem refused_of_not_mem (h : Serializes ops s₀ c) {i : Fin n} (hdone : (c.stage i).isDone = true)
    (hi : i ∉ c.order) :
    ∃ t raw err, ops i = .append t raw ∧ decodeMerge s₀.key t (trimLine raw) = .error err ∧
      c.stage i = .done (.document (.error (.rejected err))) := by
  have hout := h.outside i hi
  generalize c.stage i = st at hout hdone ⊢
  cases hout with
  | start => exact absurd hdone Bool.false_ne_true
  | waiting _ _ => exact absurd hdone Bool.false_ne_true
  | refused hop hd => exact ⟨_, _, _, hop, hd, rfl⟩

/-- **A finished run is serial**: once every thread has finished, the store is the serial run of
the calls in the order their threads took the lock, each of those calls answered as it answers
run alone after the ones before it, and the threads that never took the lock are exactly the
appends whose line was refused. -/
theorem finished_run (h : Serializes ops s₀ c) (hdone : ∀ i, (c.stage i).isDone = true) :
    c.store = serialStore ops s₀ c.order ∧
    (∀ pre i post, c.order = pre ++ i :: post →
      c.stage i = .done ((ops i).runAlone (serialStore ops s₀ pre)).1) ∧
    ∀ i, i ∉ c.order ↔ ∃ t raw err, ops i = .append t raw ∧
      decodeMerge s₀.key t (trimLine raw) = .error err ∧
      c.stage i = .done (.document (.error (.rejected err))) := by
  have hfree := h.holder_eq_none hdone
  refine ⟨h.free hfree, fun pre i post hsplit => h.finished pre i post hsplit (by rw [hfree]; exact nofun),
    fun i => ⟨h.refused_of_not_mem (hdone i), ?_⟩⟩
  -- an append that took the lock had a line that decoded
  rintro ⟨t, raw, err, hop, hd, -⟩ hi
  obtain ⟨m, hm⟩ := h.acquired i hi t raw hop
  rw [hm] at hd
  cases hd

end Serializes

/-- A refused append answers the codec's error and changes nothing, on every store with the key
it was decoded under. -/
theorem StoreCall.runAlone_refused {t : Topic} {raw : String} {key : ChecksumKey}
    {err : CodecError} (hd : decodeMerge key t (trimLine raw) = .error err) (s : TopicStore)
    (hkey : s.key = key) :
    (StoreCall.append t raw).runAlone s = (.document (.error (.rejected err)), s) := by
  rw [StoreCall.runAlone_append, hkey, hd]

/-! ## Appends of distinct players to one board -/

/-- The board a leaderboard topic on the shelf reads as: its stored text decoded, empty when it
holds nothing. -/
def Shelf.board (k : ChecksumKey) (sh : Shelf) (t : Topic) : Leaderboard :=
  Leaderboard.ofList (decodeDocument k (((sh.lookup t).map Text.textOfBytes).getD ""))

theorem TopicStore.read_shelf_leaderboard {k : ChecksumKey} {sh : Shelf} {t : Topic}
    (ht : t.kind = .leaderboard) :
    (⟨k, .shelf sh⟩ : TopicStore).read t = .ok (.leaderboard (sh.board k t)) := by
  rw [TopicStore.read_shelf, ht]
  rfl

theorem Shelf.board_of_lookup_eq_none {k : ChecksumKey} {sh : Shelf} {t : Topic}
    (h : sh.lookup t = none) : sh.board k t = Leaderboard.ofList [] := by
  rw [Shelf.board, h]
  exact congrArg Leaderboard.ofList ((Score.framedLines k).decodeDocument_encodeDocument [])

/-- **One append of a score to a leaderboard topic on a shelf that writes** leaves the topic
reading as the board it read with the score added. -/
theorem Shelf.board_append {k : ChecksumKey} {sh : Shelf} {t : Topic} {raw : String} {e : Score}
    (ht : t.kind = .leaderboard) (hfail : sh.failWrites = false)
    (hdec : Score.decodeLine k (trimLine raw) = .ok e) :
    ∃ sh', ((⟨k, .shelf sh⟩ : TopicStore).append t raw).2 = ⟨k, .shelf sh'⟩ ∧
      sh'.failWrites = false ∧ sh'.board k t = ((sh.board k t).add e).2 := by
  obtain ⟨sh', happend, hwrote, -⟩ := (appendsOnShelf_of_merged
    (TopicStore.merged_shelf_leaderboard k sh t ht _) fun _ => ht.symm).written e hdec hfail
  refine ⟨sh', by rw [happend], hwrote.failWrites_eq.trans hfail, ?_⟩
  -- the topic holds the canonical text of the new board, which reads back as that board
  rw [Shelf.board, hwrote.lookup_self, Option.map_some, Option.getD_some, Text.textOfBytes_utf8]
  exact congrArg Leaderboard.ofList ((Score.framedLines k).decodeDocument_encodeDocument _)

section Appends

variable {n : Nat} {k : ChecksumKey} {t : Topic} {raws : Fin n → String} {es : Fin n → Score}

/-- **Appends of scores to one leaderboard topic, run one after another**, add the scores to its
board in turn. -/
theorem Shelf.board_serialStore (ht : t.kind = .leaderboard)
    (hdec : ∀ i, Score.decodeLine k (trimLine (raws i)) = .ok (es i)) (is : List (Fin n))
    {sh : Shelf} (hfail : sh.failWrites = false) :
    ∃ sh', serialStore (fun i => .append t (raws i)) ⟨k, .shelf sh⟩ is = ⟨k, .shelf sh'⟩ ∧
      sh'.board k t = (sh.board k t).addAll (is.map es) := by
  -- induction on the calls, from any shelf that writes
  induction is generalizing sh with
  | nil => exact ⟨sh, rfl, rfl⟩
  | cons i is ih =>
    obtain ⟨sh₁, happend, hfail₁, hboard₁⟩ := Shelf.board_append ht hfail (hdec i)
    obtain ⟨sh', hrun, hboard⟩ := ih hfail₁
    have hfirst : serialStore (fun i => .append t (raws i)) ⟨k, .shelf sh⟩ (i :: is) =
        serialStore (fun i => .append t (raws i)) ⟨k, .shelf sh₁⟩ is := by
      rw [← happend]
      rfl
    refine ⟨sh', hfirst.trans hrun, ?_⟩
    rw [hboard, hboard₁, List.map_cons, Leaderboard.addAll_cons]

/-- **Concurrent appends of distinct players to one empty board keep every score.** Whatever the
schedule, once every thread has finished, up to 999 appends to an empty leaderboard topic on a
shelf that writes, of lines that decode to the scores of distinct players, leave the topic
reading as a board that holds exactly those scores: none lost, none twice. -/
theorem appends_keep_every_score (hn : n ≤ maxEntries) {sh : Shelf} (ht : t.kind = .leaderboard)
    (hempty : sh.lookup t = none) (hfail : sh.failWrites = false)
    (hdec : ∀ i, Score.decodeLine k (trimLine (raws i)) = .ok (es i))
    (hnames : Function.Injective fun i => (es i).name) (sched : List (Fin n))
    (hdone : ∀ i, (((Threads.init ⟨k, .shelf sh⟩).run (fun i => .append t (raws i)) sched).stage
      i).isDone = true) :
    ∃ b, ((Threads.init ⟨k, .shelf sh⟩).run (fun i => .append t (raws i)) sched).store.read t =
      .ok (.leaderboard b) ∧ b.entries.Perm (List.ofFn es) := by
  have h := (serializes_init (fun i => .append t (raws i)) ⟨k, .shelf sh⟩).run sched
  obtain ⟨hstore, -, hnot⟩ := h.finished_run hdone
  generalize (Threads.init ⟨k, .shelf sh⟩).run (fun i => .append t (raws i)) sched = c at h hstore hnot ⊢
  -- no line is refused, so every thread took the lock, each once
  have hall : ∀ i, i ∈ c.order := by
    intro i
    by_contra hi
    obtain ⟨t', raw', err, hop, hd, -⟩ := (hnot i).1 hi
    obtain ⟨rfl, rfl⟩ := StoreCall.append.inj hop
    simp only [decodeMerge, ht, hdec i] at hd
    cases hd
  have horder : c.order.Perm (List.finRange n) :=
    (List.perm_ext_iff_of_nodup h.nodup (List.nodup_finRange n)).2 fun i =>
      iff_of_true (hall i) (List.mem_finRange i)
  -- the serial run adds the scores in lock order to the empty board
  obtain ⟨sh', hserial, hboard⟩ := Shelf.board_serialStore ht hdec c.order hfail
  rw [Shelf.board_of_lookup_eq_none hempty] at hboard
  have hnodup : (names (c.order.map es)).Nodup := by
    rw [names, List.map_map]
    exact h.nodup.map hnames
  have hcount : playerCount ([] ++ c.order.map es) ≤ maxEntries := by
    calc playerCount ([] ++ c.order.map es)
        ≤ (names (c.order.map es)).length := by
          rw [List.nil_append, playerCount]
          exact (List.dedup_sublist _).length_le
      _ = n := by rw [names, List.length_map, List.length_map, horder.length_eq,
          List.length_finRange]
      _ ≤ maxEntries := hn
  have hrec := records_empty.addAll (c.order.map es) hcount
  rw [List.nil_append] at hrec
  refine ⟨sh'.board k t, by rw [hstore, hserial, TopicStore.read_shelf_leaderboard ht], ?_⟩
  rw [hboard, List.ofFn_eq_map]
  exact (hrec.perm_of_names_nodup hnodup).trans (horder.map es)

end Appends

/-! ## The theorem -/

/-- **Calls on one store, run by threads under its lock, are serial.** For any calls and any
schedule of their threads' steps, once every thread has finished: no thread took the lock twice;
the store is that of running the calls one at a time in the order their threads took the lock;
each of those calls answered as it answers run alone after the ones before it; and the threads
that never took the lock are exactly the appends whose line was refused, each answering the
codec's error, as it would on any store under the key, which it leaves unchanged. In particular,
up to 999 appends of distinct players to an empty leaderboard topic on a shelf that writes leave
every score on the board, none lost and none twice. -/
theorem threads_run_serially :
    (∀ {n : Nat} (ops : Fin n → StoreCall) (s₀ : TopicStore) (sched : List (Fin n)),
      let c := (Threads.init s₀).run ops sched
      (∀ i, (c.stage i).isDone = true) →
      c.order.Nodup ∧ c.store = serialStore ops s₀ c.order ∧
      (∀ pre i post, c.order = pre ++ i :: post →
        c.stage i = .done ((ops i).runAlone (serialStore ops s₀ pre)).1) ∧
      ∀ i, i ∉ c.order ↔ ∃ t raw err, ops i = .append t raw ∧
        decodeMerge s₀.key t (trimLine raw) = .error err ∧
        c.stage i = .done (.document (.error (.rejected err))) ∧
        ∀ s : TopicStore, s.key = s₀.key →
          (ops i).runAlone s = (.document (.error (.rejected err)), s)) ∧
    (∀ {n : Nat} (k : ChecksumKey) (sh : Shelf) (t : Topic) (raws : Fin n → String)
      (es : Fin n → Score) (sched : List (Fin n)),
      let c := (Threads.init ⟨k, .shelf sh⟩).run (fun i => .append t (raws i)) sched
      n ≤ maxEntries → t.kind = .leaderboard → sh.lookup t = none → sh.failWrites = false →
      (∀ i, Score.decodeLine k (trimLine (raws i)) = .ok (es i)) →
      Function.Injective (fun i => (es i).name) → (∀ i, (c.stage i).isDone = true) →
      ∃ b, c.store.read t = .ok (.leaderboard b) ∧ b.entries.Perm (List.ofFn es)) := by
  refine ⟨?_, ?_⟩
  · intro n ops s₀ sched c hdone
    have h := (serializes_init ops s₀).run sched
    obtain ⟨hstore, hanswers, hnot⟩ := h.finished_run hdone
    refine ⟨h.nodup, hstore, hanswers, fun i => (hnot i).trans ?_⟩
    -- a refused append answers the same on every store under the key, and leaves it
    constructor
    · rintro ⟨t, raw, err, hop, hd, hst⟩
      exact ⟨t, raw, err, hop, hd, hst, fun s hkey => hop ▸ StoreCall.runAlone_refused hd s hkey⟩
    · rintro ⟨t, raw, err, hop, hd, hst, -⟩
      exact ⟨t, raw, err, hop, hd, hst⟩
  · intro n k sh t raws es sched c hn ht hempty hfail hdec hnames hdone
    exact appends_keep_every_score hn ht hempty hfail hdec hnames sched hdone

/-- Two players race to an empty board: the second thread decodes its line while the first
holds the lock, waits, and writes after it; both scores are on the board. -/
theorem threads_run_serially_two_players :
    ∃ b, ((Threads.init ⟨.default, .shelf Shelf.empty⟩).run
        (fun i : Fin 2 => .append ⟨.leaderboard, "race", by decide⟩
          (Score.encodeLine .default (![⟨"ann", 5, by decide⟩, ⟨"bob", 7, by decide⟩] i)))
        [0, 1, 0, 1, 0, 1, 0, 1, 0, 1, 0, 1, 1, 1, 1, 1]).store.read
          ⟨.leaderboard, "race", by decide⟩ = .ok (.leaderboard b) ∧
      b.entries.Perm [⟨"ann", 5, by decide⟩, ⟨"bob", 7, by decide⟩] := by
  obtain ⟨b, hread, hperm⟩ := threads_run_serially.2 .default Shelf.empty
    ⟨.leaderboard, "race", by decide⟩ _ ![⟨"ann", 5, by decide⟩, ⟨"bob", 7, by decide⟩]
    [0, 1, 0, 1, 0, 1, 0, 1, 0, 1, 0, 1, 1, 1, 1, 1] (by decide) rfl rfl rfl
    (fun i => by
      rw [show trimLine _ = _ from (Score.framedLines .default).trimLine_encode _]
      exact Score.encodeLine_reads_back _ _)
    (by decide) (by decide +kernel)
  exact ⟨b, hread, hperm.trans (by simp)⟩

end ScoreKeeper

import Mathlib
import ScoreKeeper.Proofs.Server.Routes
import ScoreKeeper.Client.Http

/-!
# ScoreKeeper — the HTTP transport agrees with the store in this process

A client reaches a store either in this process or over HTTP, through a server's routes over
that store. When the network carries each request to the routes and each response back
unchanged (`Client.Remote.Reaches`), and the client signs with the server's key, both transports
answer every call alike: a submitted line leaves the same store behind, and both calls give the
same document or topics, or both fail and agree on whether the failure is a refusal.

The agreement rests on four facts:

* a valid topic's name is one path segment with no escape, so the routes reach the topic itself
  and its check passes (`Topic.isSegment`, `Topic.decodeSegment_name`);
* a document read back from its text is the document (`Document.decode_encode`), and the
  documents of a topic have its kind (`TopicStore.append_kind`, `TopicStore.read_kind`);
* a listing's lines read back as its topics (`Client.topicsOfListing_listing`);
* a store error comes back as a refusal exactly when the store refused the line
  (`Client.bodyText_storeErrorResponse`), which is what a refusal is in this process.

`Client.Transport.remote_eq_offline` ties the remote transport to the HTTP client over a network
where nothing connects.
-/

namespace ScoreKeeper

/-! ## Topic names

A name holds only ASCII letters, digits, `-` and `_`: it is one path segment, its bytes are its
characters, and none of them is a separator of a target, a line or an escape. -/

theorem isTopicChar_val_le {c : Char} (h : isTopicChar c = true) : c.val ≤ 127 := by
  simp [isTopicChar, Char.isAlphanum, Char.isAlpha, Char.isUpper, Char.isLower, Char.isDigit] at h
  rcases h with ((h | h) | rfl) | rfl
  · simp only [UInt32.le_iff_toNat_le] at h ⊢
    simp at h ⊢
    omega
  · simp only [UInt32.le_iff_toNat_le] at h ⊢
    simp at h ⊢
    omega
  · decide
  · decide

namespace Topic

theorem make?_self (t : Topic) : Topic.make? t.kind t.name = .ok t :=
  Topic.make?_eq_ok_iff.2 ⟨rfl, rfl⟩

theorem name_ne_empty (t : Topic) : t.name ≠ "" :=
  (isPlainComponent_of_isTopicName t.isTopicName).ne_empty

theorem isTopicChar_of_mem (t : Topic) {c : Char} (hc : c ∈ t.name.toList) : isTopicChar c = true :=
  (isTopicChar_iff c).2 (t.isTopicName.chars c hc)

/-- A name holds no character that names may not hold. -/
theorem not_mem_name (t : Topic) {c : Char} (hc : isTopicChar c = false) : c ∉ t.name.toList :=
  fun hmem => by simp [t.isTopicChar_of_mem hmem] at hc

theorem percent_not_mem_utf8 (t : Topic) : (0x25 : UInt8) ∉ Text.utf8 t.name := by
  intro hmem
  unfold Text.utf8 at hmem
  obtain ⟨c, hc, hb⟩ := List.mem_flatMap.1 hmem
  have htopic := t.isTopicChar_of_mem hc
  have hle := isTopicChar_val_le htopic
  rw [String.utf8EncodeChar_eq_singleton (Char.utf8Size_eq_one_iff.2 hle),
    List.mem_singleton] at hb
  -- the one byte of an ASCII character is its code, so the character is a percent sign
  have hpercent : c = '%' := by
    have hcode : (37 : UInt8).toNat = c.val.toNat % 2 ^ 8 := by
      rw [hb, UInt32.toNat_toUInt8]
    rw [UInt32.le_iff_toNat_le] at hle
    apply Char.ext
    apply UInt32.toNat_inj.1
    simp at hcode hle ⊢
    omega
  subst hpercent
  exact absurd htopic (by decide)

theorem isSegment (t : Topic) : Server.IsSegment t.name where
  ne_empty := t.name_ne_empty
  no_slash := t.not_mem_name (by decide)
  no_query := t.not_mem_name (by decide)
  no_fragment := t.not_mem_name (by decide)

theorem decodeSegment_name (t : Topic) : Server.decodeSegment t.name = .ok t.name :=
  Server.decodeSegment_of_plain t.percent_not_mem_utf8

end Topic

/-! ## The kinds of stored documents and topics -/

theorem decodeMerge_kind {k : ChecksumKey} {t : Topic} {line : String} {m : String → Document}
    (hm : decodeMerge k t line = .ok m) (text : String) : (m text).kind = t.kind := by
  unfold decodeMerge at hm
  cases hk : t.kind with
  | leaderboard =>
    rw [hk] at hm
    cases hd : Score.decodeLine k line with
    | error e => rw [hd] at hm; cases hm
    | ok e =>
      rw [hd] at hm
      cases hm
      rfl
  | pack =>
    rw [hk] at hm
    cases hd : Note.decodeLine k line with
    | error e => rw [hd] at hm; cases hm
    | ok e =>
      rw [hd] at hm
      cases hm
      rfl

theorem TopicStore.merged_kind {s : TopicStore} {t : Topic} {line : String} {d : Document}
    (h : s.merged t line = .ok d) : d.kind = t.kind := by
  rw [TopicStore.merged_eq] at h
  split at h
  · cases h
  · rename_i m hm
    cases hload : s.loadText t with
    | error e => rw [hload] at h; cases h
    | ok text =>
      rw [hload] at h
      cases h
      exact decodeMerge_kind hm text

theorem TopicStore.append_kind {s : TopicStore} {t : Topic} {raw : String} {d : Document}
    (h : (s.append t raw).1 = .ok d) : d.kind = t.kind := by
  unfold TopicStore.append at h
  split at h
  · cases h
  · rename_i doc hmerged
    dsimp only at h
    split at h
    · cases h
      exact TopicStore.merged_kind hmerged
    · cases h

theorem TopicStore.read_kind {s : TopicStore} {t : Topic} {d : Document}
    (h : s.read t = .ok d) : d.kind = t.kind := by
  unfold TopicStore.read at h
  cases hload : s.loadText t with
  | error e => rw [hload] at h; cases h
  | ok text =>
    rw [hload] at h
    cases h
    exact Document.kind_decode _ _ _

theorem Backend.list_kind {b : Backend} {k : Kind} {ts : List Topic} (h : b.list k = .ok ts) :
    ∀ t ∈ ts, t.kind = k := by
  intro t ht
  cases b with
  | shelf s =>
    simp only [Backend.list] at h
    cases h
    rw [sortTopics, List.mem_mergeSort] at ht
    exact (List.mem_filter.1 ht).2 |> of_decide_eq_true
  | disk root d =>
    simp only [Backend.list] at h
    split at h
    · cases h
      simp at ht
    · cases h
    · cases h
      rw [sortTopics, List.mem_mergeSort] at ht
      obtain ⟨e, _, he⟩ := List.mem_filterMap.1 ht
      split at he
      · split at he
        · rename_i hmake
          cases he
          exact (Topic.make?_eq_ok_iff.1 hmake).1
        · cases he
      · cases he

theorem Backend.list_error {b : Backend} {k : Kind} {e : StoreError} (h : b.list k = .error e) :
    ∃ o, e = .io o := by
  cases b with
  | shelf s => cases h
  | disk root d =>
    simp only [Backend.list] at h
    split at h
    · cases h
    · cases h
      exact ⟨_, rfl⟩
    · cases h

/-! ## Lines of a listing -/

namespace Text

theorem toList_join_terminated (ls : List String) :
    (String.join (ls.map (· ++ "\n"))).toList =
      ['\n'].intercalate (ls.map String.toList ++ [[]]) := by
  induction ls with
  | nil => rfl
  | cons l ls ih =>
    have hjoin : (String.join ((l :: ls).map (· ++ "\n"))).toList =
        l.toList ++ ['\n'] ++ (String.join (ls.map (· ++ "\n"))).toList := by
      simp [String.toList_append]
    obtain ⟨m, ms, hms⟩ : ∃ m ms, ls.map String.toList ++ [[]] = m :: ms :=
      List.exists_cons_of_ne_nil (by simp)
    rw [hjoin, ih, List.map_cons, List.cons_append, hms, List.intercalate_cons_cons]

/-- **Lines each ended by a line feed read back as those lines**, when none holds a line feed or
ends in a carriage return. -/
theorem lines_join_terminated {ls : List String} (hnl : ∀ l ∈ ls, '\n' ∉ l.toList)
    (hcr : ∀ l ∈ ls, l.toList.getLast? ≠ some '\r') :
    lines (String.join (ls.map (· ++ "\n"))) = ls := by
  have hpieces : (String.join (ls.map (· ++ "\n"))).toList.splitOn '\n' =
      ls.map String.toList ++ [[]] := by
    rw [toList_join_terminated, List.splitOn_intercalate]
    · intro l hl
      simp only [List.mem_append, List.mem_map, List.mem_singleton] at hl
      rcases hl with ⟨l', hl', rfl⟩ | rfl
      · exact hnl l' hl'
      · simp
    · simp
  unfold lines
  simp only [hpieces, List.dropLast_concat, List.getLast?_concat, List.map_map]
  conv => rhs; rw [← List.map_id ls]
  apply List.map_congr_left
  intro l hl
  simp [hcr l hl]

end Text

namespace Client

open Server

theorem mapM_make?_names (k : Kind) {ts : List Topic} (hk : ∀ t ∈ ts, t.kind = k) :
    (ts.map Topic.name).mapM (fun name => (Topic.make? k name).mapError ClientError.invalidTopic) =
      .ok ts := by
  induction ts with
  | nil => rfl
  | cons t ts ih =>
    have hmake : Topic.make? k t.name = .ok t := by
      rw [← hk t List.mem_cons_self]
      exact Topic.make?_self t
    rw [List.map_cons, List.mapM_cons, hmake, ih fun t' ht' => hk t' (List.mem_cons_of_mem t ht')]
    rfl

/-- **A listing reads back as its topics.** -/
theorem topicsOfListing_listing (k : Kind) {ts : List Topic} (hk : ∀ t ∈ ts, t.kind = k) :
    topicsOfListing k (String.join (ts.map fun t => t.name ++ "\n")) = .ok ts := by
  have hlines : Text.lines (String.join (ts.map fun t => t.name ++ "\n")) = ts.map Topic.name := by
    have hjoin : (ts.map fun t => t.name ++ "\n") = (ts.map Topic.name).map (· ++ "\n") := by
      rw [List.map_map]
      rfl
    rw [hjoin]
    apply Text.lines_join_terminated
    · intro l hl
      obtain ⟨t, _, rfl⟩ := List.mem_map.1 hl
      exact t.not_mem_name (by decide)
    · intro l hl hlast
      obtain ⟨t, _, rfl⟩ := List.mem_map.1 hl
      exact t.not_mem_name (by decide) (List.mem_of_getLast? hlast)
  have hfilter : (ts.map Topic.name).filter (· ≠ "") = ts.map Topic.name := by
    apply List.filter_eq_self.2
    intro l hl
    obtain ⟨t, _, rfl⟩ := List.mem_map.1 hl
    simpa using t.name_ne_empty
  unfold topicsOfListing
  rw [hlines, hfilter]
  exact mapM_make?_names k hk

/-! ## Answers read back -/

theorem bodyText_ok (body : String) : bodyText (.text 200 body) = .ok body := by
  simp [bodyText, Response.text, Text.textOfBytes_utf8]

/-- A store error comes back as a refusal exactly when the store refused the line. -/
theorem bodyText_storeErrorResponse (e : StoreError) :
    ∃ ce, bodyText (storeErrorResponse e) = .error ce ∧ ce.isRefused = e.isRejected := by
  cases e with
  | rejected c =>
    refine ⟨.refused 400 (Text.trimEnd ("store error: " ++ (StoreError.rejected c).message)),
      ?_, rfl⟩
    simp [bodyText, storeErrorResponse, Response.text, StoreError.isRejected]
  | io o =>
    refine ⟨.server 500 (Text.trimEnd ("store error: " ++ (StoreError.io o).message)), ?_, rfl⟩
    simp [bodyText, storeErrorResponse, Response.text, StoreError.isRejected]

/-! ## Reaching the routes -/

/-- An exchange that reaches the routes at the base of `r`: a request to a URL under the base
arrives with the rest of the URL as its target, and the response comes back unchanged. -/
def Remote.Reaches (r : Remote) (ex : Exchange Router) : Prop :=
  ∀ (srv : Router) (method path : String) (body : List UInt8),
    ex srv ⟨method, trimSlashes r.base.serialize ++ path, body⟩ =
      (.ok (srv.handle ⟨method, path, body⟩).1, (srv.handle ⟨method, path, body⟩).2)

/-- The exchange with a server in this process at the base of `r`. -/
def Remote.loopback (r : Remote) : Exchange Router := fun srv req =>
  let path := String.ofList (req.target.toList.drop (trimSlashes r.base.serialize).toList.length)
  (.ok (srv.handle ⟨req.method, path, req.body⟩).1, (srv.handle ⟨req.method, path, req.body⟩).2)

theorem Remote.reaches_loopback (r : Remote) : r.Reaches r.loopback := by
  intro srv method path body
  simp [Remote.loopback, String.toList_append]

theorem Remote.topicUrl_eq (r : Remote) (t : Topic) :
    r.topicUrl t = trimSlashes r.base.serialize ++ topicPath t.kind t.name := by
  simp [Remote.topicUrl, Remote.kindUrl, topicPath, String.append_assoc]

theorem Remote.kindUrl_eq (r : Remote) (k : Kind) :
    r.kindUrl k = trimSlashes r.base.serialize ++ kindPath k := by
  simp [Remote.kindUrl, kindPath, String.append_assoc]

/-- Two answers of a call agree when both give the same value, or both fail and agree on whether
the failure is a refusal. -/
inductive Agree {α : Type} : Except ClientError α → Except ClientError α → Prop
  | ok (a : α) : Agree (.ok a) (.ok a)
  | error (e e' : ClientError) : e.isRefused = e'.isRefused → Agree (.error e) (.error e')

/-- An answer that agrees with a success is that success. -/
theorem Agree.eq_of_ok {α : Type} {x : Except ClientError α} {a : α} (h : Agree x (.ok a)) :
    x = .ok a := by
  cases h with
  | ok => rfl

/-! ## The two transports agree

Each call is rewritten to the routes' answer (`submitOver_reaches`, `fetchOver_reaches`), then
taken apart by the answers of the routes: the topic's check always passes, and each outcome of
the store comes back to the client as the store in this process gives it. -/

section Agreement

variable {r : Remote} {ex : Exchange Router}

theorem agree_storeError {α : Type} (e : StoreError) (f : String → α) :
    Agree ((bodyText (storeErrorResponse e)).map f) (.error (.store e)) := by
  obtain ⟨ce, hce, hrefused⟩ := bodyText_storeErrorResponse e
  rw [hce]
  exact .error ce _ hrefused

theorem Remote.submitOver_reaches (hex : r.Reaches ex) (srv : Router) (t : Topic) (line : String) :
    r.submitOver ex srv t line =
      ((bodyText (srv.handle ⟨"POST", topicPath t.kind t.name, Text.utf8 line⟩).1).map
          (Document.decode t.kind r.key),
        (srv.handle ⟨"POST", topicPath t.kind t.name, Text.utf8 line⟩).2) := by
  unfold Remote.submitOver
  rw [Remote.topicUrl_eq, hex]
  dsimp only [bind, Except.bind]
  cases bodyText (srv.handle ⟨"POST", topicPath t.kind t.name, Text.utf8 line⟩).1 <;> rfl

theorem Remote.submitOver_agrees (hex : r.Reaches ex) (srv : Router) (hkey : r.key = srv.store.key)
    (t : Topic) {line : String} (hsize : line.utf8ByteSize ≤ srv.maxBodyBytes) :
    Agree (r.submitOver ex srv t line).1 ((Transport.inProcess srv.store).submit t line).1 ∧
      Transport.inProcess (r.submitOver ex srv t line).2.store =
        ((Transport.inProcess srv.store).submit t line).2 := by
  have hpost := post_answer srv t.kind t.decodeSegment_name hsize
  rw [← handle_post_topic srv t.kind t.isSegment] at hpost
  rw [Remote.submitOver_reaches hex]
  simp only [Transport.submit]
  generalize srv.handle ⟨"POST", topicPath t.kind t.name, Text.utf8 line⟩ = a at hpost ⊢
  -- the topic is valid, so its check passes and the answer is the store's
  cases hpost with
  | badTopic e hmake =>
    rw [Topic.make?_self] at hmake
    cases hmake
  | rejected t' e hmake happ =>
    rw [Topic.make?_self] at hmake
    cases hmake
    rw [happ]
    exact ⟨agree_storeError (.rejected e) _, rfl⟩
  | failed t' e s hmake happ hkey' hsame =>
    rw [Topic.make?_self] at hmake
    cases hmake
    rw [happ]
    exact ⟨agree_storeError (.io e) _, rfl⟩
  | stored t' d s hmake happ hkey' =>
    rw [Topic.make?_self] at hmake
    cases hmake
    have hkind : d.kind = t.kind := TopicStore.append_kind (by rw [happ])
    rw [happ]
    dsimp only
    rw [bodyText_ok, Except.map, hkey, ← hkind, Document.decode_encode]
    exact ⟨.ok d, rfl⟩

theorem Remote.fetchOver_reaches (hex : r.Reaches ex) (srv : Router) (t : Topic) :
    r.fetchOver ex srv t =
      ((bodyText (srv.get (.topic t.kind t.name) none)).map (Document.decode t.kind r.key),
        srv) := by
  unfold Remote.fetchOver
  rw [Remote.topicUrl_eq, hex, handle_get_topicPath srv t.kind t.isSegment]
  dsimp only [bind, Except.bind]
  cases bodyText (srv.get (.topic t.kind t.name) none) <;> rfl

theorem Remote.fetchOver_agrees (hex : r.Reaches ex) (srv : Router) (hkey : r.key = srv.store.key)
    (t : Topic) :
    Agree (r.fetchOver ex srv t).1 ((Transport.inProcess srv.store).fetch t) ∧
      (r.fetchOver ex srv t).2 = srv := by
  have hget : GetAnswer srv t.kind t.name false (srv.get (.topic t.kind t.name) none) :=
    get_answer srv t.kind t.decodeSegment_name false
  rw [Remote.fetchOver_reaches hex]
  refine ⟨?_, rfl⟩
  simp only [Transport.fetch]
  generalize srv.get (.topic t.kind t.name) none = a at hget ⊢
  cases hget with
  | badTopic e hmake =>
    rw [Topic.make?_self] at hmake
    cases hmake
  | failed t' e hmake hread =>
    rw [Topic.make?_self] at hmake
    cases hmake
    rw [hread]
    exact agree_storeError (.io e) _
  | read t' d hmake hread =>
    rw [Topic.make?_self] at hmake
    cases hmake
    have hkind : d.kind = t.kind := TopicStore.read_kind hread
    rw [hread, if_neg Bool.false_ne_true, bodyText_ok, Except.map, hkey, ← hkind,
      Document.decode_encode]
    exact .ok d

theorem Remote.listOver_agrees (hex : r.Reaches ex) (srv : Router) (k : Kind) :
    Agree (r.listOver ex srv k).1 ((Transport.inProcess srv.store).list k) ∧
      (r.listOver ex srv k).2 = srv := by
  unfold Remote.listOver
  rw [Remote.kindUrl_eq, hex, handle_get_listing]
  refine ⟨?_, rfl⟩
  simp only [Transport.list, TopicStore.list, Router.get, bind, Except.bind]
  cases hlist : srv.store.backend.list k with
  | ok ts =>
    rw [bodyText_ok]
    dsimp only
    rw [topicsOfListing_listing k (Backend.list_kind hlist)]
    exact .ok ts
  | error e =>
    obtain ⟨ce, hce, hrefused⟩ := bodyText_storeErrorResponse e
    dsimp only
    rw [hce]
    exact .error ce _ hrefused

end Agreement

/-- The remote transport is the HTTP client over a network where nothing connects. -/
theorem Transport.remote_eq_offline (r : Remote) (t : Topic) (line : String) (k : Kind) :
    Transport.fetch (.remote r) t = (r.fetchOver offline () t).1 ∧
      Transport.submit (.remote r) t line = ((r.submitOver offline () t line).1, .remote r) ∧
      Transport.list (.remote r) k = (r.listOver offline () k).1 :=
  ⟨rfl, rfl, rfl⟩

/-- **Over a network that reaches the routes, the HTTP transport answers as the store in this
process.** With the server's key, a line within the body limit submitted over either transport
leaves the same store and gives agreeing answers; so do a fetch and a listing, which leave the
server as it was. -/
theorem http_transport_agrees_with_local {r : Remote} {ex : Exchange Router} (hex : r.Reaches ex)
    (srv : Router) (hkey : r.key = srv.store.key) (t : Topic) (k : Kind) {line : String}
    (hsize : line.utf8ByteSize ≤ srv.maxBodyBytes) :
    (Agree (r.submitOver ex srv t line).1 ((Transport.inProcess srv.store).submit t line).1 ∧
        Transport.inProcess (r.submitOver ex srv t line).2.store =
          ((Transport.inProcess srv.store).submit t line).2) ∧
      (Agree (r.fetchOver ex srv t).1 ((Transport.inProcess srv.store).fetch t) ∧
        (r.fetchOver ex srv t).2 = srv) ∧
      (Agree (r.listOver ex srv k).1 ((Transport.inProcess srv.store).list k) ∧
        (r.listOver ex srv k).2 = srv) :=
  ⟨Remote.submitOver_agrees hex srv hkey t hsize, Remote.fetchOver_agrees hex srv hkey t,
    Remote.listOver_agrees hex srv k⟩

/-- On the loopback network, a score signed with the server's key is stored by both transports,
which answer the same document. -/
theorem http_transport_agrees_with_local_on_loopback :
    let r : Remote :=
      ⟨⟨"http", "", "", some (.domain "localhost"), none, .segments [""], none, none⟩, .default⟩
    let srv : Router := ⟨⟨.default, .shelf .empty⟩, 1024⟩
    let t : Topic := ⟨.leaderboard, "tetris", by decide⟩
    let line := (⟨"alice", 1, by decide⟩ : Score).encodeLine .default
    r.Reaches r.loopback ∧ r.key = srv.store.key ∧ line.utf8ByteSize ≤ srv.maxBodyBytes ∧
      ((Agree (r.submitOver r.loopback srv t line).1
            ((Transport.inProcess srv.store).submit t line).1 ∧
          Transport.inProcess (r.submitOver r.loopback srv t line).2.store =
            ((Transport.inProcess srv.store).submit t line).2) ∧
        (Agree (r.fetchOver r.loopback srv t).1 ((Transport.inProcess srv.store).fetch t) ∧
          (r.fetchOver r.loopback srv t).2 = srv) ∧
        (Agree (r.listOver r.loopback srv .pack).1 ((Transport.inProcess srv.store).list .pack) ∧
          (r.listOver r.loopback srv .pack).2 = srv)) ∧
      ∃ d, (r.submitOver r.loopback srv t line).1 = .ok d ∧
        ((Transport.inProcess srv.store).submit t line).1 = .ok d := by
  intro r srv t line
  have hsize : line.utf8ByteSize ≤ srv.maxBodyBytes :=
    (Score.encodeLine_size_le _ _).trans (by decide)
  have hagree := http_transport_agrees_with_local r.reaches_loopback srv rfl t .pack hsize
  -- the line is signed with the server's key, so the store in this process takes it
  obtain ⟨sh', happ⟩ :=
    TopicStore.append_encodeLine_shelf .default .empty t rfl rfl ⟨"alice", 1, by decide⟩
  obtain ⟨d, s, hstored⟩ : ∃ d s, srv.store.append t line = (.ok d, s) := ⟨_, _, happ⟩
  have hlocal : ((Transport.inProcess srv.store).submit t line).1 = .ok d := by
    simp only [Transport.submit, hstored]
    rfl
  have hremote := hagree.1.1
  rw [hlocal] at hremote
  exact ⟨r.reaches_loopback, rfl, hsize, hagree, d, hremote.eq_of_ok, hlocal⟩

end Client

end ScoreKeeper

import Mathlib
import ScoreKeeper.Proofs.Text.Split
import ScoreKeeper.Proofs.Store.Outcomes
import ScoreKeeper.Proofs.Codec.Tamper
import ScoreKeeper.Server.Router
import ScoreKeeper.Proofs.Store.Topics

/-!
# ScoreKeeper — how the topic routes answer

A topic is reached at `/api/<prefix>/<segment>`; a read may ask for the JSON form with the
query `?format=json`. For every segment that is one path segment and decodes to a name, and every
body within the limit, a post is answered from the outcome of the topic check and the append
alone: 400 with the topic's fault when the name is refused (the store is not called), 400 when the
codec refuses the line, 500 when storage fails, and 200 with the merged document's text when it is
written. Only the last changes what the backend holds. A read is answered 400 for a refused name,
500 for a failing storage and 200 with the document otherwise, and leaves the server as it was.

## The architecture

* **`routeOf_topicPath`**, **`splitTarget_readTarget`** — the path is split into the route of the
  topic, with its query when there is one.
* **`formatOf_json`**, **`decodeSegment_of_plain`** — the query and the segment as the route reads
  them.
* **`PostAnswer`**, **`GetAnswer`** — the answers of each route, one constructor per outcome of the
  topic check and the store call; **`post_answer`** and **`get_answer`** show that the router
  gives one of them, from **`TopicStore.append_outcome`** and **`TopicStore.read_error`**.
* **`topic_routes_answer`** — both routes, from the request the client sends.
-/

namespace ScoreKeeper.Server

/-! ## The path of a topic -/

/-- The path of the topic route of kind `k` at `segment`, as a client writes it. -/
def topicPath (k : Kind) (segment : String) : String :=
  "/api/" ++ k.pfx ++ "/" ++ segment

/-- The path of the listing route of kind `k`. -/
def kindPath (k : Kind) : String :=
  "/api/" ++ k.pfx

/-- The target of a read of a topic, asking for the JSON form when `json` holds. -/
def readTarget (k : Kind) (segment : String) (json : Bool) : String :=
  topicPath k segment ++ if json then "?format=json" else ""

/-- A text that is one whole path segment: it ends neither the path nor the target. -/
structure IsSegment (s : String) : Prop where
  ne_empty : s ≠ ""
  no_slash : '/' ∉ s.toList
  no_query : '?' ∉ s.toList
  no_fragment : '#' ∉ s.toList

theorem toList_topicPath (k : Kind) (segment : String) :
    (topicPath k segment).toList =
      ['/'].intercalate [[], "api".toList, k.pfx.toList, segment.toList] := by
  simp [topicPath, String.toList_append, List.intercalate]

/-- A character that neither the fixed part of the path nor the segment holds is not in the
path. -/
theorem not_mem_topicPath (k : Kind) {segment : String} {c : Char}
    (hc : c ∉ ("/api/" ++ k.pfx ++ "/").toList) (hs : c ∉ segment.toList) :
    c ∉ (topicPath k segment).toList := by
  rw [topicPath, String.toList_append, List.mem_append]
  exact not_or.2 ⟨hc, hs⟩

/-- A target with neither a fragment nor a query is all path. -/
theorem splitTarget_of_plain {target : String} (hhash : '#' ∉ target.toList)
    (hq : '?' ∉ target.toList) : splitTarget target = (target, none) := by
  unfold splitTarget
  rw [show "#" = String.singleton '#' from rfl, splitOn_singleton_of_not_mem hhash]
  simp only [List.headD_cons]
  rw [show "?" = String.singleton '?' from rfl, splitOn_singleton_of_not_mem hq]

theorem splitTarget_of_query {target path query : String} (hhash : '#' ∉ target.toList)
    (hsplit : target.splitOn "?" = [path, query]) : splitTarget target = (path, some query) := by
  unfold splitTarget
  rw [show "#" = String.singleton '#' from rfl, splitOn_singleton_of_not_mem hhash]
  simp only [List.headD_cons]
  rw [hsplit]
  rfl

theorem splitTarget_topicPath (k : Kind) {segment : String} (h : IsSegment segment) :
    splitTarget (topicPath k segment) = (topicPath k segment, none) :=
  splitTarget_of_plain (not_mem_topicPath k (by cases k <;> decide) h.no_fragment)
    (not_mem_topicPath k (by cases k <;> decide) h.no_query)

theorem splitTarget_readTarget (k : Kind) {segment : String} (h : IsSegment segment)
    (json : Bool) :
    splitTarget (readTarget k segment json) =
      (topicPath k segment, if json then some "format=json" else none) := by
  cases json with
  | false => simpa [readTarget] using splitTarget_topicPath k h
  | true =>
    have hq : '?' ∉ (topicPath k segment).toList :=
      not_mem_topicPath k (by cases k <;> decide) h.no_query
    have hchars : (readTarget k segment true).toList =
        (topicPath k segment).toList ++ '?' :: "format=json".toList := by
      simp [readTarget, String.toList_append]
    have hhash : '#' ∉ (readTarget k segment true).toList := by
      rw [hchars, List.mem_append, not_or]
      exact ⟨not_mem_topicPath k (by cases k <;> decide) h.no_fragment, by decide⟩
    -- the query is the one text after the only `?`
    have hsplit : (readTarget k segment true).splitOn "?" =
        [topicPath k segment, "format=json"] := by
      rw [show (readTarget k segment true).splitOn "?" =
          (readTarget k segment true).splitOn (String.singleton '?') from rfl, splitOn_singleton,
        hchars, List.splitOn_append_cons_self_of_not_mem hq,
        List.splitOn_eq_singleton (by decide)]
      simp
    exact splitTarget_of_query hhash hsplit

theorem routeOf_topicPath (k : Kind) {segment : String} (h : IsSegment segment) :
    routeOf (topicPath k segment) = some (.topic k segment) := by
  have hsplit : (topicPath k segment).splitOn "/" = ["", "api", k.pfx, segment] := by
    rw [show "/" = String.singleton '/' from rfl, splitOn_singleton, toList_topicPath,
      List.splitOn_intercalate]
    · simp
    · intro l hl
      simp only [List.mem_cons, List.not_mem_nil, or_false] at hl
      rcases hl with rfl | rfl | rfl | rfl
      · simp
      · decide
      · exact k.slash_not_mem_pfx
      · exact h.no_slash
    · simp
  unfold routeOf
  rw [hsplit]
  cases k <;> simp [Kind.pfx, kindOfRoute, h.ne_empty]

theorem routeOf_kindPath (k : Kind) : routeOf (kindPath k) = some (.listing k) := by
  have hsplit : (kindPath k).splitOn "/" = ["", "api", k.pfx] := by
    have hchars : (kindPath k).toList = ['/'].intercalate [[], "api".toList, k.pfx.toList] := by
      simp [kindPath, String.toList_append, List.intercalate]
    rw [show "/" = String.singleton '/' from rfl, splitOn_singleton, hchars,
      List.splitOn_intercalate]
    · simp
    · intro l hl
      simp only [List.mem_cons, List.not_mem_nil, or_false] at hl
      rcases hl with rfl | rfl | rfl
      · simp
      · decide
      · exact k.slash_not_mem_pfx
    · simp
  unfold routeOf
  rw [hsplit]
  cases k <;> simp [Kind.pfx, kindOfRoute]

theorem splitTarget_kindPath (k : Kind) : splitTarget (kindPath k) = (kindPath k, none) :=
  splitTarget_of_plain (by cases k <;> decide) (by cases k <;> decide)

theorem handle_get_listing (r : Router) (k : Kind) :
    r.handle ⟨"GET", kindPath k, []⟩ = (r.get (.listing k) none, r) := by
  unfold Router.handle
  simp only [splitTarget_kindPath k, routeOf_kindPath k]

theorem handle_get_topicPath (r : Router) (k : Kind) {segment : String} (h : IsSegment segment) :
    r.handle ⟨"GET", topicPath k segment, []⟩ = (r.get (.topic k segment) none, r) := by
  unfold Router.handle
  simp only [splitTarget_topicPath k h, routeOf_topicPath k h]

theorem handle_post_topic (r : Router) (k : Kind) {segment : String} (h : IsSegment segment)
    (body : List UInt8) :
    r.handle ⟨"POST", topicPath k segment, body⟩ = r.post k segment body := by
  unfold Router.handle
  simp only [splitTarget_topicPath k h, routeOf_topicPath k h]

theorem handle_get_topic (r : Router) (k : Kind) {segment : String} (h : IsSegment segment)
    (json : Bool) :
    r.handle ⟨"GET", readTarget k segment json, []⟩ =
      (r.get (.topic k segment) (if json then some "format=json" else none), r) := by
  unfold Router.handle
  simp only [splitTarget_readTarget k h json, routeOf_topicPath k h]

/-! ## Segments and queries without escapes -/

theorem percentDecode_of_not_mem {bytes : List UInt8} (h : (0x25 : UInt8) ∉ bytes) :
    Net.percentDecode bytes = bytes := by
  fun_induction Net.percentDecode bytes with
  | case1 => rfl
  | case2 => simp at h
  | case3 => simp at h
  | case4 b _ _ _ _ ih => rw [ih fun hm => h (List.mem_cons_of_mem b hm)]
  | case5 b _ _ ih => rw [ih fun hm => h (List.mem_cons_of_mem b hm)]

/-- A segment without `%` is its own name. -/
theorem decodeSegment_of_plain {s : String} (h : (0x25 : UInt8) ∉ Text.utf8 s) :
    decodeSegment s = .ok s := by
  unfold decodeSegment
  dsimp only
  rw [percentDecode_of_not_mem h]
  simp [Text.isWellFormed]

theorem formDecode_of_plain {s : String} (hplus : (43 : UInt8) ∉ Text.utf8 s)
    (hpercent : (0x25 : UInt8) ∉ Text.utf8 s) : formDecode s = s := by
  have hmap : (Text.utf8 s).map (fun b => if b = 43 then 32 else b) = Text.utf8 s := by
    conv => rhs; rw [← List.map_id (Text.utf8 s)]
    apply List.map_congr_left
    intro b hb
    have hne : b ≠ 43 := fun heq => hplus (heq ▸ hb)
    simp [hne]
  unfold formDecode
  dsimp only
  rw [hmap, percentDecode_of_not_mem hpercent, Text.textOfBytes_utf8]

theorem formFields_empty : formFields "" = [] := by
  unfold formFields
  rw [show "&" = String.singleton '&' from rfl, splitOn_singleton]
  simp

theorem formatOf_empty : formatOf "" = .ok none := by
  rw [formatOf, formFields_empty]
  rfl

theorem formFields_field {key value : String} (hamp : '&' ∉ key.toList)
    (heq : '=' ∉ key.toList) (hamp' : '&' ∉ value.toList) (heq' : '=' ∉ value.toList) :
    formFields (key ++ "=" ++ value) = [(formDecode key, formDecode value)] := by
  have hchars : (key ++ "=" ++ value).toList = key.toList ++ '=' :: value.toList := by
    simp [String.toList_append]
  have hpart : '&' ∉ (key ++ "=" ++ value).toList := by
    rw [hchars]
    simp [hamp, hamp']
  have hsplit : (key ++ "=" ++ value).splitOn "=" = [key, value] := by
    rw [show (key ++ "=" ++ value).splitOn "=" =
        (key ++ "=" ++ value).splitOn (String.singleton '=') from rfl, splitOn_singleton, hchars,
      List.splitOn_append_cons_self_of_not_mem heq, List.splitOn_eq_singleton heq']
    simp
  unfold formFields
  rw [show (key ++ "=" ++ value).splitOn "&" =
      (key ++ "=" ++ value).splitOn (String.singleton '&') from rfl,
    splitOn_singleton_of_not_mem hpart]
  simp [hsplit]

theorem formatOf_json : formatOf "format=json" = .ok (some "json") := by
  have hformat : formDecode "format" = "format" := formDecode_of_plain (by decide) (by decide)
  have hjson : formDecode "json" = "json" := formDecode_of_plain (by decide) (by decide)
  have hfields : formFields ("format" ++ "=" ++ "json") = [("format", "json")] := by
    rw [formFields_field (by decide) (by decide) (by decide) (by decide), hformat, hjson]
  rw [formatOf, show "format=json" = "format" ++ "=" ++ "json" from rfl, hfields]
  rfl

theorem formatOf_readTarget (json : Bool) :
    formatOf ((if json then some "format=json" else none).getD "") =
      .ok (if json then some "json" else none) := by
  cases json with
  | false => exact formatOf_empty
  | true => exact formatOf_json

/-! ## The answers -/

/-- The ways a line posted to the topic of kind `k` named `name` is answered, with the server
after it: one constructor per outcome of the topic check and the append. -/
inductive PostAnswer (r : Router) (k : Kind) (name body : String) : Response × Router → Prop
  | badTopic (e : FieldError) : Topic.make? k name = .error e →
      PostAnswer r k name body (.text 400 ("invalid topic: " ++ e.message), r)
  | rejected (t : Topic) (e : CodecError) : Topic.make? k name = .ok t →
      r.store.append t body = (.error (.rejected e), r.store) →
      PostAnswer r k name body (.text 400 ("store error: " ++ (StoreError.rejected e).message), r)
  | failed (t : Topic) (e : OsError) (s : TopicStore) : Topic.make? k name = .ok t →
      r.store.append t body = (.error (.io e), s) → s.key = r.store.key →
      s.backend.SameStored r.store.backend →
      PostAnswer r k name body
        (.text 500 ("store error: " ++ (StoreError.io e).message), { r with store := s })
  | stored (t : Topic) (d : Document) (s : TopicStore) : Topic.make? k name = .ok t →
      r.store.append t body = (.ok d, s) → s.key = r.store.key →
      PostAnswer r k name body (.text 200 (d.encode r.store.key), { r with store := s })

/-- The ways a read of the topic of kind `k` named `name` is answered. -/
inductive GetAnswer (r : Router) (k : Kind) (name : String) (json : Bool) : Response → Prop
  | badTopic (e : FieldError) : Topic.make? k name = .error e →
      GetAnswer r k name json (.text 400 ("invalid topic: " ++ e.message))
  | failed (t : Topic) (e : OsError) : Topic.make? k name = .ok t →
      r.store.read t = .error (.io e) →
      GetAnswer r k name json (.text 500 ("store error: " ++ (StoreError.io e).message))
  | read (t : Topic) (d : Document) : Topic.make? k name = .ok t → r.store.read t = .ok d →
      GetAnswer r k name json (if json then .json d.toJson else .text 200 (d.encode r.store.key))

theorem post_answer (r : Router) (k : Kind) {segment name body : String}
    (hname : decodeSegment segment = .ok name) (hsize : body.utf8ByteSize ≤ r.maxBodyBytes) :
    PostAnswer r k name body (r.post k segment (Text.utf8 body)) := by
  have hfits : ¬ (Text.utf8 body).length > r.maxBodyBytes := by
    rw [Text.length_utf8]
    omega
  unfold Router.post
  rw [hname]
  dsimp only
  -- the body is a text's own bytes: within the limit, UTF-8, and read back as the text
  rw [if_neg hfits, Text.utf8Error?_utf8, Text.textOfBytes_utf8]
  dsimp only
  unfold topicNamed
  cases hmake : Topic.make? k name with
  | error e => exact .badTopic e hmake
  | ok t =>
    dsimp only [Except.mapError]
    -- the store's answer is taken apart by the inversion lemma of an append
    have hout := TopicStore.append_outcome r.store t body
    generalize happ : r.store.append t body = p at hout ⊢
    cases hout with
    | rejected e => exact .rejected t e hmake happ
    | failed e s hkey hsame => exact .failed t e s hmake happ hkey hsame
    | written d s hkey =>
      dsimp only
      rw [hkey]
      exact .stored t d s hmake happ hkey

theorem get_answer (r : Router) (k : Kind) {segment name : String}
    (hname : decodeSegment segment = .ok name) (json : Bool) :
    GetAnswer r k name json
      (r.get (.topic k segment) (if json then some "format=json" else none)) := by
  unfold Router.get
  dsimp only
  rw [hname]
  dsimp only
  rw [formatOf_readTarget]
  dsimp only
  unfold topicNamed
  cases hmake : Topic.make? k name with
  | error e => exact .badTopic e hmake
  | ok t =>
    dsimp only [Except.mapError]
    cases hread : r.store.read t with
    | error e =>
      obtain ⟨o, rfl⟩ := TopicStore.read_error hread
      exact .failed t o hmake hread
    | ok d => cases json <;> exact .read t d hmake hread

namespace PostAnswer

variable {r : Router} {k : Kind} {name body : String} {a : Response × Router}

theorem status_eq_200_iff (h : PostAnswer r k name body a) :
    a.1.status = 200 ↔ ∃ t d, Topic.make? k name = .ok t ∧ (r.store.append t body).1 = .ok d := by
  cases h with
  | badTopic e hmake => simp [Response.text, hmake]
  | rejected t e hmake happ => simp [Response.text, hmake, happ]
  | failed t e s hmake happ => simp [Response.text, hmake, happ]
  | stored t d s hmake happ => simp [Response.text, hmake, happ]

theorem status_eq_400_iff (h : PostAnswer r k name body a) :
    a.1.status = 400 ↔ (∃ e, Topic.make? k name = .error e) ∨
      ∃ t e, Topic.make? k name = .ok t ∧ (r.store.append t body).1 = .error (.rejected e) := by
  cases h with
  | badTopic e hmake => simp [Response.text, hmake]
  | rejected t e hmake happ => simp [Response.text, hmake, happ]
  | failed t e s hmake happ => simp [Response.text, hmake, happ]
  | stored t d s hmake happ => simp [Response.text, hmake, happ]

/-- Only a stored line changes what the backend holds. -/
theorem sameStored_of_status_ne (h : PostAnswer r k name body a) (hs : a.1.status ≠ 200) :
    a.2.store.key = r.store.key ∧ a.2.store.backend.SameStored r.store.backend := by
  cases h with
  | badTopic e hmake => exact ⟨rfl, Backend.sameStored_refl _⟩
  | rejected t e hmake happ => exact ⟨rfl, Backend.sameStored_refl _⟩
  | failed t e s hmake happ hkey hsame => exact ⟨hkey, hsame⟩
  | stored t d s hmake happ => exact absurd rfl hs

end PostAnswer

namespace GetAnswer

variable {r : Router} {k : Kind} {name : String} {json : Bool} {a : Response}

theorem status_eq_400_iff (h : GetAnswer r k name json a) :
    a.status = 400 ↔ ∃ e, Topic.make? k name = .error e := by
  cases h with
  | badTopic e hmake => simp [Response.text, hmake]
  | failed t e hmake hread => simp [Response.text, hmake]
  | read t d hmake hread => cases json <;> simp [Response.text, Response.json, hmake]

theorem status_eq_500_iff (h : GetAnswer r k name json a) :
    a.status = 500 ↔ ∃ t e, Topic.make? k name = .ok t ∧ r.store.read t = .error (.io e) := by
  cases h with
  | badTopic e hmake => simp [Response.text, hmake]
  | failed t e hmake hread => simp [Response.text, hmake, hread]
  | read t d hmake hread => cases json <;> simp [Response.text, Response.json, hmake, hread]

end GetAnswer

/-- **The topic routes answer from the topic check and the store alone.** For a segment that
decodes to `name` and a body within the limit, a post gets one of the four answers of
`PostAnswer` and a read one of the three of `GetAnswer`, and a read leaves the server as it was. -/
theorem topic_routes_answer (r : Router) (k : Kind) {segment name body : String}
    (hseg : IsSegment segment) (hname : decodeSegment segment = .ok name)
    (hsize : body.utf8ByteSize ≤ r.maxBodyBytes) (json : Bool) :
    PostAnswer r k name body (r.handle ⟨"POST", topicPath k segment, Text.utf8 body⟩) ∧
      GetAnswer r k name json (r.handle ⟨"GET", readTarget k segment json, []⟩).1 ∧
      (r.handle ⟨"GET", readTarget k segment json, []⟩).2 = r := by
  rw [handle_post_topic r k hseg, handle_get_topic r k hseg json]
  exact ⟨post_answer r k hname hsize, get_answer r k hname json, rfl⟩

/-- A score signed with the server's key, posted to the leaderboard "alice" of an empty shelf,
is stored and answered with 200. -/
theorem topic_routes_answer_alice :
    let srv : Router := ⟨⟨.default, .shelf .empty⟩, 1024⟩
    let body := (⟨"alice", 1, by decide⟩ : Score).encodeLine .default
    IsSegment "alice" ∧ decodeSegment "alice" = .ok "alice" ∧
      body.utf8ByteSize ≤ srv.maxBodyBytes ∧
      (PostAnswer srv .leaderboard "alice" body
          (srv.handle ⟨"POST", topicPath .leaderboard "alice", Text.utf8 body⟩) ∧
        GetAnswer srv .leaderboard "alice" true
          (srv.handle ⟨"GET", readTarget .leaderboard "alice" true, []⟩).1 ∧
        (srv.handle ⟨"GET", readTarget .leaderboard "alice" true, []⟩).2 = srv) ∧
      (srv.handle ⟨"POST", topicPath .leaderboard "alice", Text.utf8 body⟩).1.status = 200 := by
  intro srv body
  have hseg : IsSegment "alice" := ⟨by decide, by decide, by decide, by decide⟩
  have hname : decodeSegment "alice" = .ok "alice" := decodeSegment_of_plain (by decide)
  have hsize : body.utf8ByteSize ≤ srv.maxBodyBytes :=
    (Score.encodeLine_size_le _ _).trans (by decide)
  have hroutes := topic_routes_answer srv .leaderboard hseg hname hsize true
  -- the line is signed with the shelf's key, so the store takes it
  let t : Topic := ⟨.leaderboard, "alice", by decide⟩
  obtain ⟨sh', happ⟩ :=
    TopicStore.append_encodeLine_shelf .default .empty t rfl rfl ⟨"alice", 1, by decide⟩
  have hstored : (srv.store.append t body).1 = .ok _ := congrArg Prod.fst happ
  exact ⟨hseg, hname, hsize, hroutes,
    hroutes.1.status_eq_200_iff.2 ⟨t, _, Topic.make?_eq_ok_iff.2 ⟨rfl, rfl⟩, hstored⟩⟩

end ScoreKeeper.Server

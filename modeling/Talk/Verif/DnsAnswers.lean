import Talk.Protocol.Dns

/-!
# Answers from the DNS

A DNS-over-HTTPS server answers with an object whose keys are `Status` and `Answer`. The client
reads the keys `status` and `answer`, which have defaults: whatever the server has published, the
status is zero and there are no answers. The search for the best record is right, and never sees
one.
-/

namespace Talk.Verif.DnsAnswers

open Text Document Protocol.Dns

/-! ## What is published -/

/-- The types that are queried. -/
inductive QueryType where
  /-- The domain key. -/
  | txt
  /-- The endpoint. -/
  | srv
  deriving DecidableEq

/-- The name of a type in a query. -/
def QueryType.name : QueryType → String
  | txt => "TXT"
  | srv => "SRV"

/-- The number of a type in an answer. -/
def QueryType.code : QueryType → Int
  | txt => 16
  | srv => 33

/-- A value is an object with a numeric `type` and a text under `data`. -/
def IsAnswer (item : Value) (answer : DnsAnswer) : Prop :=
  ∃ fields, item = .object fields ∧ valuesOf "type" fields = [.integer answer.type] ∧
    valuesOf "data" fields = [.string answer.data]

/-- A response document: an object with a `Status`, and with a list of answers under `Answer`. -/
structure Published where
  /-- The fields of the object. -/
  fields : List (String × Value)
  /-- The status. -/
  status : Int
  /-- The answers. -/
  answers : List DnsAnswer
  /-- The status stands under its key. -/
  hasStatus : valuesOf "Status" fields = [.integer status]
  /-- The answers stand under theirs. -/
  hasAnswers : ∃ items, valuesOf "Answer" fields = [.array items] ∧
    List.Forall₂ IsAnswer items answers

/-- The data of the answers of a type, without the quotes around it. -/
def Published.dataOf (document : Published) (type : QueryType) : List String :=
  (document.answers.filter fun answer => answer.type == type.code).map fun answer =>
    unquoted answer.data

/-- A query is answered with a document. -/
def Answers (client : DohClient) (name : String) (type : QueryType) (document : Published) : Prop :=
  ∃ body, client.agent (client.url name type.name) = .ok body ∧
    client.document body = .ok (.object document.fields)

/-- A query returns what is published: that there is nothing exactly where the status is not zero,
and otherwise the data of the type. -/
structure QueryExact (client : DohClient) (name : String) (type : QueryType)
    (document : Published) : Prop where
  /-- There is nothing. -/
  notFound : client.query name type.name = .error (.notFound name) ↔ document.status ≠ 0
  /-- There is data. -/
  data : document.status = 0 → client.query name type.name = .ok (document.dataOf type)

/-- An endpoint is that of a record of minimal priority among those that are well formed, and there
is none exactly where none is well formed. -/
structure EndpointExact (client : DohClient) (env : Env) (domain : String) (document : Published) :
    Prop where
  /-- The endpoint of a best record. -/
  best : (document.dataOf .srv).filterMap parseSrv ≠ [] →
    ∃ srv ∈ (document.dataOf .srv).filterMap parseSrv,
      (∀ other ∈ (document.dataOf .srv).filterMap parseSrv, srv.priority ≤ other.priority) ∧
        resolveEndpoint client env domain = .ok srv.endpoint
  /-- No endpoint. -/
  none : resolveEndpoint client env domain = .error (.noSrv domain) ↔
    (document.dataOf .srv).filterMap parseSrv = []

/-- The answer to a query is read as it is published, and so is the endpoint of a domain. -/
def ReadAsPublished (client : DohClient) (env : Env) (name : String) (type : QueryType)
    (document : Published) : Prop :=
  QueryExact client name type document ∧
    ∀ domain, type = .srv → name = serviceName domain → isCounterparty env domain = false →
      document.status = 0 → EndpointExact client env domain document

/-! ## The condition -/

/-- The document has one of the keys the client reads. -/
def HasClientKeys (document : Published) : Prop :=
  valuesOf "status" document.fields ≠ [] ∨ valuesOf "answer" document.fields ≠ []

/-- Nothing is published: the status is zero, and there are no answers of the type. -/
def NothingPublished (type : QueryType) (document : Published) : Prop :=
  document.status = 0 ∧ ∀ answer ∈ document.answers, answer.type ≠ type.code

/-- What stands under the keys the client reads is well formed and repeats what is published. -/
def Repeated (type : QueryType) (document : Published) : Prop :=
  ∃ parsed, DnsResponse.read (.object document.fields) = some parsed ∧
    (parsed.status = 0 ↔ document.status = 0) ∧
    (document.status = 0 → parsed.records = document.dataOf type)

/-- Nothing is published, or it is also published under the keys the client reads. -/
def Readable (type : QueryType) (document : Published) : Prop :=
  (¬HasClientKeys document ∧ NothingPublished type document) ∨
    (HasClientKeys document ∧ Repeated type document)

/-! ## Queries -/

/-- Without the client's keys, a document is read as a response with nothing in it. -/
theorem read_published {document : Published} (other : ¬HasClientKeys document) :
    DnsResponse.read (.object document.fields) = some ⟨0, []⟩ := by
  obtain ⟨status, answer⟩ := not_or.mp other
  rw [DnsResponse.read, defaulted_missing (not_not.mp status),
    defaulted_missing (not_not.mp answer)]
  rfl

/-- What a query returns is what the document is read as. -/
theorem query_eq {client : DohClient} {name : String} {type : QueryType} {document : Published}
    (answered : Answers client name type document) :
    (DnsResponse.read (.object document.fields) = none ∧
      ∃ text, client.query name type.name = .error (.malformed text)) ∨
    ∃ parsed, DnsResponse.read (.object document.fields) = some parsed ∧
      client.query name type.name =
        if parsed.status ≠ 0 then .error (.notFound name) else .ok parsed.records := by
  obtain ⟨body, got, read⟩ := answered
  rw [DohClient.query, got]
  dsimp only
  rw [read]
  dsimp only
  cases DnsResponse.read (.object document.fields) with
  | none => exact .inl ⟨rfl, _, rfl⟩
  | some parsed => exact .inr ⟨parsed, rfl, rfl⟩

/-- A query returns what is published exactly where it is published under the client's keys. -/
theorem queryExact_iff_repeated {client : DohClient} {name : String} {type : QueryType}
    {document : Published} (answered : Answers client name type document) :
    QueryExact client name type document ↔ Repeated type document := by
  rcases query_eq answered with ⟨unread, text, malformed⟩ | ⟨parsed, read, result⟩
  · refine iff_of_false (fun exact' => ?_) fun ⟨_, read, _⟩ => ?_
    · by_cases zero : document.status = 0
      · have data := exact'.data zero
        rw [malformed] at data
        cases data
      · have missing := exact'.notFound.mpr zero
        rw [malformed] at missing
        cases Except.error.inj missing
    · rw [unread] at read
      cases read
  · by_cases status : parsed.status = 0
    · rw [if_neg (not_not.mpr status)] at result
      constructor
      · intro exact'
        have zero : document.status = 0 := by
          by_contra other
          have missing := exact'.notFound.mpr other
          rw [result] at missing
          cases missing
        have data := exact'.data zero
        rw [result] at data
        exact ⟨parsed, read, iff_of_true status zero, fun _ => Except.ok.inj data⟩
      · rintro ⟨other, also, statuses, records⟩
        rw [read] at also
        cases also
        have zero := statuses.mp status
        refine ⟨?_, fun _ => by rw [result, records zero]⟩
        rw [result]
        exact iff_of_false (fun same => by cases same) (not_not.mpr zero)
    · rw [if_pos status] at result
      constructor
      · intro exact'
        have other := exact'.notFound.mp result
        exact ⟨parsed, read, iff_of_false status other, fun zero => absurd zero other⟩
      · rintro ⟨other, also, statuses, -⟩
        rw [read] at also
        cases also
        have zero := statuses.not.mp status
        exact ⟨iff_of_true result zero, fun same => absurd same zero⟩

/-- Without the client's keys, what is published is repeated exactly where there is nothing. -/
theorem repeated_iff {type : QueryType} {document : Published} (other : ¬HasClientKeys document) :
    Repeated type document ↔ NothingPublished type document := by
  have read := read_published other
  have nothing : document.dataOf type = [] ↔
      ∀ answer ∈ document.answers, answer.type ≠ type.code := by
    simp [Published.dataOf]
  unfold Repeated NothingPublished
  rw [← nothing]
  constructor
  · rintro ⟨parsed, also, statuses, records⟩
    rw [read] at also
    cases also
    have zero := statuses.mp rfl
    exact ⟨zero, (records zero).symm⟩
  · rintro ⟨zero, empty⟩
    exact ⟨⟨0, []⟩, read, iff_of_true rfl zero, fun _ => empty.symm⟩

/-! ## The search for an endpoint -/

/-- What a search ends with is the best record it began with or a record it has come by, and no
record is better. -/
theorem bestOf_minimal {records : List String} {best : Option Srv} {srv : Srv}
    (found : bestOf best records = some srv) :
    (best = some srv ∨ srv ∈ records.filterMap parseSrv) ∧
      (∀ first ∈ best, srv.priority ≤ first.priority) ∧
      ∀ other ∈ records.filterMap parseSrv, srv.priority ≤ other.priority := by
  induction records generalizing best with
  | nil =>
    rw [bestOf] at found
    refine ⟨.inl found, fun first same => ?_, fun other member => absurd member List.not_mem_nil⟩
    rw [found] at same
    exact Nat.le_of_eq (congrArg Srv.priority (Option.some.inj same))
  | cons data records ih =>
    rw [bestOf] at found
    cases read : parseSrv data with
    | none =>
      rw [read] at found
      rw [List.filterMap_cons_none read]
      exact ih found
    | some parsed =>
      rw [read] at found
      dsimp only at found
      rw [List.filterMap_cons_some read]
      obtain ⟨source, earlier, later⟩ := ih found
      by_cases replaced : better best parsed = true
      · rw [if_pos replaced] at source earlier
        have below := earlier parsed rfl
        refine ⟨.inr ?_, fun first same => ?_, List.forall_mem_cons.mpr ⟨below, later⟩⟩
        · rcases source with same | member
          · rw [Option.some.inj same]
            exact List.mem_cons_self
          · exact List.mem_cons_of_mem _ member
        · rw [Option.mem_def.mp same, better, decide_eq_true_iff] at replaced
          omega
      · rw [if_neg replaced] at source earlier
        refine ⟨source.imp_right (List.mem_cons_of_mem _), earlier,
          List.forall_mem_cons.mpr ⟨?_, later⟩⟩
        cases first : best with
        | none =>
          rw [first] at replaced
          exact absurd rfl replaced
        | some srv' =>
          have below := earlier srv' first
          rw [first, better, decide_eq_true_iff] at replaced
          omega

/-- A search finds nothing exactly where it began with nothing and no record is well formed. -/
theorem bestOf_eq_none {records : List String} {best : Option Srv} :
    bestOf best records = none ↔ best = none ∧ records.filterMap parseSrv = [] := by
  induction records generalizing best with
  | nil => simp [bestOf]
  | cons data records ih =>
    rw [bestOf]
    cases read : parseSrv data with
    | none =>
      rw [List.filterMap_cons_none read]
      exact ih
    | some parsed =>
      rw [List.filterMap_cons_some read]
      dsimp only
      rw [ih]
      refine iff_of_false (fun ⟨same, _⟩ => ?_) fun both => List.cons_ne_nil _ _ both.2
      by_cases replaced : better best parsed = true
      · rw [if_pos replaced] at same
        cases same
      · rw [if_neg replaced] at same
        rw [same] at replaced
        exact replaced rfl

/-- Where the query returns what is published, the endpoint is that of a best record. -/
theorem endpointExact_of_query {client : DohClient} {env : Env} {domain : String}
    {document : Published} (exact' : QueryExact client (serviceName domain) .srv document)
    (remote : isCounterparty env domain = false) (zero : document.status = 0) :
    EndpointExact client env domain document := by
  have data : client.query (serviceName domain) "SRV" = .ok (document.dataOf .srv) :=
    exact'.data zero
  have far : ¬isCounterparty env domain = true := by
    rw [remote]
    exact Bool.false_ne_true
  cases found : bestOf none (document.dataOf .srv) with
  | none =>
    have result : resolveEndpoint client env domain = .error (.noSrv domain) := by
      rw [resolveEndpoint, if_neg far, data]
      dsimp only
      rw [found]
    have empty := (bestOf_eq_none.mp found).2
    exact ⟨fun some => absurd empty some, iff_of_true result empty⟩
  | some srv =>
    have result : resolveEndpoint client env domain = .ok srv.endpoint := by
      rw [resolveEndpoint, if_neg far, data]
      dsimp only
      rw [found]
    obtain ⟨source, -, least⟩ := bestOf_minimal found
    have member := source.resolve_left (fun same => by cases same)
    refine ⟨fun _ => ⟨srv, member, least, result⟩, iff_of_false (fun same => ?_) fun empty => ?_⟩
    · rw [result] at same
      cases same
    · rw [empty] at member
      exact List.not_mem_nil member

/-! ## Answers as they are published -/

/-- An answer is read as it is published exactly where nothing is published, or it is published
under the client's keys as well. -/
theorem readAsPublished_iff {client : DohClient} {name : String} {type : QueryType}
    {document : Published} (answered : Answers client name type document) (env : Env) :
    ReadAsPublished client env name type document ↔ Readable type document := by
  have query : ReadAsPublished client env name type document ↔ Repeated type document := by
    rw [← queryExact_iff_repeated answered]
    refine ⟨And.left, fun exact' => ⟨exact', fun domain srv service remote zero => ?_⟩⟩
    rw [srv, service] at exact'
    exact endpointExact_of_query exact' remote zero
  rw [query, Readable]
  by_cases keys : HasClientKeys document
  · rw [iff_true_intro keys, not_true, false_and, false_or, true_and]
  · rw [iff_false_intro keys, not_false_iff, true_and, false_and, or_false, repeated_iff keys]

/-- A client of a server that answers every query with one text, which is that of a document. -/
def fixed (body : String) (document : Published) : DohClient where
  endpoint := "https://cloudflare-dns.com/dns-query"
  agent _ := .ok body
  document text := if text = body then .ok (.object document.fields) else .error "expected value"
  refusal _ := "invalid type"

/-- The fixed client is answered with its document. -/
theorem answers_fixed (body : String) (document : Published) (name : String) (type : QueryType) :
    Answers (fixed body document) name type document :=
  ⟨body, rfl, if_pos rfl⟩

/-- A document with one record for the endpoint. -/
def published : Published where
  fields := [("Status", .integer 0), ("TC", .boolean false),
    ("Answer", .array [.object [("name", .string "_zpayments._tcp.b.org"), ("type", .integer 33),
      ("TTL", .integer 300), ("data", .string "10 0 8888 mail.b.org")]])]
  status := 0
  answers := [⟨33, "10 0 8888 mail.b.org"⟩]
  hasStatus := rfl
  hasAnswers := ⟨_, rfl, .cons ⟨_, rfl, rfl, rfl⟩ .nil⟩

/-- The text of that document. -/
def publishedText : String :=
  "\x7b\"Status\":0,\"TC\":false,\"Answer\":[\x7b\"name\":\"_zpayments._tcp.b.org\",\"type\":33,"
    ++ "\"TTL\":300,\"data\":\"10 0 8888 mail.b.org\"\x7d]\x7d"

/-- A document that says it twice, under the keys of DNS-over-HTTPS and under the client's. -/
def repeating : Published where
  fields := published.fields ++ [("status", .integer 0),
    ("answer", .array [.object [("type", .integer 33), ("data", .string "10 0 8888 mail.b.org")]])]
  status := 0
  answers := [⟨33, "10 0 8888 mail.b.org"⟩]
  hasStatus := rfl
  hasAnswers := ⟨_, rfl, .cons ⟨_, rfl, rfl, rfl⟩ .nil⟩

/-- The text of that document. -/
def repeatingText : String :=
  "\x7b\"Status\":0,\"TC\":false,\"Answer\":[\x7b\"name\":\"_zpayments._tcp.b.org\",\"type\":33,"
    ++ "\"TTL\":300,\"data\":\"10 0 8888 mail.b.org\"\x7d],\"status\":0,"
    ++ "\"answer\":[\x7b\"type\":33,\"data\":\"10 0 8888 mail.b.org\"\x7d]\x7d"

/-- A record that is published under the client's keys as well is read. -/
theorem repeated_read :
    ReadAsPublished (fixed repeatingText repeating) (fun _ => none) (serviceName "b.org") .srv
      repeating := by
  have answered := answers_fixed repeatingText repeating (serviceName "b.org") .srv
  have keys : HasClientKeys repeating := .inl (by decide +kernel)
  have read : DnsResponse.read (.object repeating.fields) =
      some ⟨0, [⟨33, "10 0 8888 mail.b.org"⟩]⟩ := by
    decide +kernel
  exact (readAsPublished_iff answered fun _ => none).mpr
    (.inr ⟨keys, _, read, iff_of_true rfl rfl, fun _ => by decide +kernel⟩)

/-- The record of an endpoint is not seen. -/
theorem record_not_seen :
    ¬∀ (client : DohClient) (env : Env) (name : String) (type : QueryType) (document : Published),
      Answers client name type document → ReadAsPublished client env name type document := by
  intro all
  have exact' := (all (fixed publishedText published) (fun _ => none) (serviceName "b.org") .srv
    published (answers_fixed publishedText published _ _)).1
  have data := exact'.data rfl
  have nothing : (fixed publishedText published).query (serviceName "b.org") "SRV" = .ok [] := by
    decide +kernel
  have record : published.dataOf .srv = ["10 0 8888 mail.b.org"] := by decide +kernel
  rw [record] at data
  cases nothing.symm.trans data

/-! ## What follows for the resolvers -/

/-- A domain other than the counterparty's whose documents have none of the client's keys has no key
and no endpoint, whatever it publishes. -/
theorem nothing_resolved {Key : Type} {client : DohClient} {env : Env} (reader : KeyReader Key)
    {domain : String} (remote : isCounterparty env domain = false) {keys endpoints : Published}
    (keysAnswered : Answers client (serviceName domain) .txt keys)
    (endpointsAnswered : Answers client (serviceName domain) .srv endpoints)
    (keysOther : ¬HasClientKeys keys) (endpointsOther : ¬HasClientKeys endpoints) :
    resolvingKey client env reader domain = .error (.notFound domain) ∧
      resolveEndpoint client env domain = .error (.noSrv domain) := by
  have far : ¬isCounterparty env domain = true := by
    rw [remote]
    exact Bool.false_ne_true
  have query {type : QueryType} {document : Published}
      (answered : Answers client (serviceName domain) type document)
      (other : ¬HasClientKeys document) :
      client.query (serviceName domain) type.name = .ok [] := by
    rcases query_eq answered with ⟨unread, -⟩ | ⟨parsed, read, result⟩
    · rw [read_published other] at unread
      cases unread
    · rw [read_published other] at read
      cases read
      exact result
  have txt : client.query (serviceName domain) "TXT" = .ok [] := query keysAnswered keysOther
  have srv : client.query (serviceName domain) "SRV" = .ok [] :=
    query endpointsAnswered endpointsOther
  constructor
  · rw [resolvingKey, if_neg far, txt]
    rfl
  · rw [resolveEndpoint, if_neg far, srv]
    rfl

/-- A reader that takes every key. -/
def keyTaking : KeyReader (Hex.Block 32) := ⟨fun _ => .ok [], fun _ => .ok [], .ok⟩

/-- The endpoint that b.org publishes is not found. -/
theorem published_not_resolved :
    resolvingKey (fixed publishedText published) (fun _ => none) keyTaking "b.org" =
        .error (.notFound "b.org") ∧
      resolveEndpoint (fixed publishedText published) (fun _ => none) "b.org" =
        .error (.noSrv "b.org") := by
  have other : ¬HasClientKeys published := not_or.mpr ⟨by decide +kernel, by decide +kernel⟩
  exact nothing_resolved keyTaking (by decide +kernel) (answers_fixed publishedText published _ _)
    (answers_fixed publishedText published _ _) other other

end Talk.Verif.DnsAnswers

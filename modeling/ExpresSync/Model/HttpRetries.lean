import ExpresSync.Foundation.SearchPatterns

/-!
# Requests that are retried

`retry` of `utils/retry.ts`, and the requests of `steve-client.ts` and `lago-client.ts`, which give
it an attempt: a fetch, and what becomes of the response.  What each fetch of a request comes to is
given by its number.
-/

namespace ExpresSync

/-! ## `retry` -/

structure RetryOptions (E : Type) where
  maxAttempts : ℕ
  /-- In milliseconds, as is `maxDelay`. -/
  initialDelay : ℕ
  maxDelay : ℕ
  backoffMultiplier : ℕ
  isRetryable : E → Bool

/-- A finished call of `retry`. -/
structure RetryRun (E T : Type) where
  /-- How often `fn` has been called. -/
  calls : ℕ
  /-- The delays between the calls. -/
  delays : List ℕ
  result : Except E T

section

variable {E T : Type}

/-- The loop from an attempt on, counted from 0, when `left` more can follow it. -/
def retryFrom (opts : RetryOptions E) (fn : ℕ → Except E T) : (left attempt delay : ℕ) →
    RetryRun E T
  | 0, attempt, _ => ⟨1, [], fn attempt⟩
  | left + 1, attempt, delay =>
      match fn attempt with
      | .ok value => ⟨1, [], .ok value⟩
      | .error error =>
          if !opts.isRetryable error then ⟨1, [], .error error⟩
          else
            let rest := retryFrom opts fn left (attempt + 1)
              (min (delay * opts.backoffMultiplier) opts.maxDelay)
            ⟨rest.calls + 1, delay :: rest.delays, rest.result⟩

/-- `retry`, for at least one attempt. -/
def retry (opts : RetryOptions E) (fn : ℕ → Except E T) : RetryRun E T :=
  retryFrom opts fn (opts.maxAttempts - 1) 0 opts.initialDelay

end

/-- What `isRetryable` looks for in a message. -/
def retryableWords : List String := ["network", "timeout", "500", "502", "503", "504"]

/-- `DEFAULT_OPTIONS.isRetryable` -/
def isRetryable (L : LowerCase) (message : String) : Bool :=
  retryableWords.any fun word => word.toList <:+: L.apply message.toList

/-- `DEFAULT_OPTIONS`; the options of the two clients have the same values. -/
def defaultRetryOptions (L : LowerCase) : RetryOptions String where
  maxAttempts := 3
  initialDelay := 1000
  maxDelay := 30000
  backoffMultiplier := 2
  isRetryable := isRetryable L

/-! ## Attempts -/

/-- A response, with what reading it comes to; an error is the message of what is thrown. -/
structure HttpResponse (T : Type) where
  status : ℕ
  statusText : String
  /-- `response.text()` -/
  text : Except String String
  /-- `response.json()`, up to the schema, which has its own error. -/
  data : Except String (Except String T)

inductive FetchOutcome (T : Type) where
  /-- `fetch` throws: no connection, or the request is aborted after 30 seconds. -/
  | rejected (message : String)
  | response (response : HttpResponse T)

/-- What the two clients do differently. -/
structure ApiClient (T : Type) where
  name : String
  /-- What is returned for `204`, where it is a case of its own. -/
  noContent : Option T

section

variable {T : Type}

/-- `response.ok` -/
def HttpResponse.isOk (r : HttpResponse T) : Bool := 200 ≤ r.status && r.status < 300

/-- The callback of `request`. -/
def ApiClient.attempt (client : ApiClient T) : FetchOutcome T → Except String T
  | .rejected message => .error message
  | .response r =>
      if !r.isOk then
        match r.text with
        | .error message => .error message
        | .ok errorText =>
            .error (client.name ++ " API error: " ++ toString r.status ++ " " ++ r.statusText ++
              " - " ++ errorText)
      else
        match if r.status = 204 then client.noContent else none with
        | some value => .ok value
        | none =>
            match r.data with
            | .error message => .error message
            | .ok (.error error) =>
                .error (client.name ++ " API response validation failed: " ++ error)
            | .ok (.ok validated) => .ok validated

/-- `request`, of either client. -/
def ApiClient.request (client : ApiClient T) (L : LowerCase) (outcomes : ℕ → FetchOutcome T) :
    RetryRun String T :=
  retry (defaultRetryOptions L) fun n => client.attempt (outcomes n)

def steveApi : ApiClient T := ⟨"StEvE", none⟩

/-- With `{}` of the type of the answer. -/
def lagoApi (empty : T) : ApiClient T := ⟨"Lago", some empty⟩

/-- `SteveClient.request` -/
def SteveClient.request (L : LowerCase) (outcomes : ℕ → FetchOutcome T) : RetryRun String T :=
  steveApi.request L outcomes

/-- `LagoClient.request` -/
def LagoClient.request (empty : T) (L : LowerCase) (outcomes : ℕ → FetchOutcome T) :
    RetryRun String T :=
  (lagoApi empty).request L outcomes

end

end ExpresSync

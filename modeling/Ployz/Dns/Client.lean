import Ployz.Dns.Url

/-!
# Requests of the DNS client

A request is sent again to where a redirect points, ten times at most. The headers are carried
from leg to leg; a leg away from the first host loses the credentials for good, a `POST` that
is rewritten loses its body and the headers about it, and the referer is set anew. What the
transport answers to each request is an arbitrary sequence.
-/

namespace Ployz.Dns

/-- `Header`. -/
structure Header where
  name : String
  value : String
deriving DecidableEq

/-- `Request`. -/
structure Request where
  method : String
  url : List Char
  headers : List Header
  body : Option (List UInt8)
deriving DecidableEq

/-- `Response`. -/
structure Response where
  status : UInt16
  headers : List Header
  body : List UInt8
deriving DecidableEq

/-- `TransportError`. -/
structure TransportError where
  isResponseBody : Bool
  message : String

/-- `str::to_ascii_lowercase`. -/
def lowercase (text : String) : List Char := text.toList.map Char.toLower

def eqIgnoreAsciiCase (left right : String) : Bool := lowercase left = lowercase right

def Response.header (self : Response) (name : String) : Option String :=
  (self.headers.find? fun header => eqIgnoreAsciiCase header.name name).map (·.value)

def sameOrSubdomain (host initial : List Char) : Bool :=
  let host := host.map Char.toLower
  host = initial ||
    (initial.isSuffixOf host && (host.take (host.length - initial.length)).getLast? = some '.')

def isSensitive (name : String) : Bool :=
  ["authorization".toList, "www-authenticate".toList, "cookie".toList, "cookie2".toList,
    "proxy-authorization".toList, "proxy-authenticate".toList].contains (lowercase name)

/-- The headers about a body, which a rewritten request loses. -/
def isContent (name : String) : Bool :=
  ["content-encoding".toList, "content-language".toList, "content-location".toList,
    "content-type".toList].contains (lowercase name)

/-- What `follow` carries from one request to the next. -/
structure Leg where
  url : CompatibleUrl
  method : String
  body : Option (List UInt8)
  headers : List Header

namespace Leg

variable (library : Library) (self : Leg)

/-- The headers of the request: basic authentication from the URL if nothing else is there, and
what the Go client sends. -/
def requestHeaders : List Header :=
  self.headers ++
    (if self.headers.any fun header => eqIgnoreAsciiCase header.name "authorization" then []
      else
        match self.url.userinfo library with
        | none => []
        | some (username, password) =>
          [⟨"Authorization", "Basic " ++ String.ofList
            (Base64.encode Base64.standard (username ++ ":" ++ password).toUTF8.data.toList)⟩]) ++
    [⟨"User-Agent", "Go-http-client/1.1"⟩, ⟨"Accept-Encoding", "gzip"⟩]

/-- The request of a leg. -/
def request : Except Error Request := do
  let url ← self.url.requestUri library
  return ⟨self.method, url, self.requestHeaders library, self.body⟩

/-- The headers and the body of a `POST` that is rewritten, or as they were. -/
def rewrite (status : UInt16) : Leg :=
  if 301 ≤ status ∧ status ≤ 303 ∧ self.method = "POST" then
    { self with
      method := "GET", body := none
      headers := self.headers.filter fun header => !isContent header.name }
  else self

/-- The leg to the next URL. -/
def redirect (initialHost : List Char) (next : CompatibleUrl) : Leg :=
  let headers :=
    if sameOrSubdomain next.host initialHost then self.headers
    else self.headers.filter fun header => !isSensitive header.name
  let headers := headers.filter fun header => !eqIgnoreAsciiCase header.name "referer"
  let downgrade := self.url.scheme.map Char.toLower = "https".toList ∧
    next.scheme.map Char.toLower = "http".toList
  { self with
    url := next
    headers :=
      if downgrade then headers
      else headers ++ [⟨"Referer", String.ofList self.url.referer⟩] }

end Leg

/-- Where a response redirects to. -/
def Response.redirectTo (self : Response) : Option String :=
  if self.status ∈ [301, 302, 303, 307, 308] then
    (self.header "location").filter (· ≠ "")
  else none

/-- The loop of `Client::follow` with some requests left; returns the requests that were sent as
well. The last response may not redirect any more. -/
def followLoop (library : Library) (answers : Nat → Except TransportError Response)
    (initialHost : List Char) : Nat → Nat → Leg → List Request × Except Error Response
  | 0, _, _ => ([], .error .tooManyRedirects)
  | left + 1, number, leg =>
    match leg.request library with
    | .error error => ([], .error error)
    | .ok request =>
      match answers number with
      | .error error =>
        ([request], .error (if error.isResponseBody then .readResponse error.message
          else .transport error.message))
      | .ok response =>
        match response.redirectTo with
        | none => ([request], .ok response)
        | some location =>
          if left = 0 then ([request], .error .tooManyRedirects)
          else
            match leg.url.resolve library location.toList with
            | .error error => ([request], .error error)
            | .ok next =>
              let later := followLoop library answers initialHost left (number + 1)
                ((leg.rewrite response.status).redirect initialHost next)
              (request :: later.1, later.2)

def follow (library : Library) (answers : Nat → Except TransportError Response) (leg : Leg) :
    List Request × Except Error Response :=
  followLoop library answers (leg.url.host.map Char.toLower) 10 1 leg

/-- `Client::post`, up to the reading of the response. -/
def post (library : Library) (answers : Nat → Except TransportError Response)
    (url : CompatibleUrl) (body : Option (List UInt8)) (token : String) :
    List Request × Except Error Response :=
  let authorization : List Header :=
    if token = "" then [] else [⟨"Authorization", "Bearer " ++ token⟩]
  follow library answers
    ⟨url, "POST", body, ⟨"Content-Type", "application/json"⟩ :: authorization⟩

end Ployz.Dns

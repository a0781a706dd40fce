import ExpresSync.Foundation.WebUrls
import ExpresSync.Model.Types

/-!
# The back link of the login pages

`back-href.ts`, and what the loaders of the two login pages give it.
-/

namespace ExpresSync

open WebUrl

/-- `url.origin` for those of the allowed origins that are URLs. -/
def originsOf (p : Parser) (allowedOrigins : List String) : List String :=
  (allowedOrigins.filterMap p.parse).map Url.origin

def sanitiseBackHref (p : Parser) (raw : Option String) (allowedOrigins : List String) :
    Option String :=
  match raw with
  | none => none
  | some raw =>
      if raw = "" then none
      else
        let trimmed := trim raw
        if trimmed = "" then none
        else if ['/'] <+: trimmed.toList ∧ ¬['/', '/'] <+: trimmed.toList then some trimmed
        else
          match p.parse trimmed with
          | none => none
          | some url => if url.origin ∈ originsOf p allowedOrigins then some url.href else none

/-- `backHref` of both loaders, from the `back` parameter and the addresses of the two surfaces. -/
def loginBackHref (p : Parser) (back : Option String) (customerBaseUrl adminBaseUrl : String) :
    Option String :=
  sanitiseBackHref p back [customerBaseUrl, adminBaseUrl]

end ExpresSync

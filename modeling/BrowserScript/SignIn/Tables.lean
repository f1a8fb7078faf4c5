/-
BrowserScript.SignIn.Tables — the words, paths and selectors of sign-in pages.

* `Intent` is what a visitor wants from a form: to log in or to sign up.
* `linkWords` are the words of a link that leads to a form, `loginPhrases` and `signupPhrases` those of
  the page around it.
* `Intent.paths` are the usual places of a form on a site.
* The selector tables rank the links, fields and buttons from the most to the least reliable.
-/
namespace BrowserScript.SignIn

/-- What a form is for. -/
inductive Intent where
  | login
  | signup
  deriving DecidableEq, Repr

/-- The word for an intent. -/
def Intent.word : Intent → String
  | .login => "login"
  | .signup => "signup"

/-! ## Words -/

/-- Words of links that lead to a login form. -/
def loginWords : List String := [
  "log in", "login", "log-in", "sign in", "signin", "sign-in"]

/-- Words of links that lead to a signup form. -/
def signupWords : List String := [
  "sign up", "signup", "sign-up", "register", "create account", "join"]

/-- Phrases of signup pages. -/
def signupPhrases : List String := [
  "create your account", "create an account", "create account", "sign up", "signup", "register",
  "join now", "get started", "already have an account", "confirm password", "choose a password"]

/-- Phrases of login pages. -/
def loginPhrases : List String := [
  "sign in", "log in", "login", "welcome back", "forgot password", "forgot your password",
  "remember me", "don't have an account", "keep me signed in"]

/-! ## Paths -/

/-- Usual paths of login pages. -/
def loginPaths : List String := [
  "/login", "/signin", "/auth/login", "/user/login", "/account/login"]

/-- Usual paths of signup pages. -/
def signupPaths : List String := [
  "/signup", "/register", "/join", "/auth/register", "/account/register"]

/-- The paths at which a form for an intent is looked for. -/
def Intent.paths : Intent → List String
  | .login => loginPaths
  | .signup => signupPaths

/-! ## Links -/

/-- Links to a login form. -/
def loginLinks : List String := [
  "header a:has-text(\"Log in\")", "header a:has-text(\"Sign in\")", "nav a:has-text(\"Log in\")",
  "nav a:has-text(\"Sign in\")", "header button:has-text(\"Log in\")",
  "header button:has-text(\"Sign in\")", "a[href*=\"login\" i]", "a[href*=\"signin\" i]",
  "a[href*=\"sign-in\" i]", "a:has-text(\"Log in\")", "a:has-text(\"Login\")",
  "a:has-text(\"Sign in\")", "button:has-text(\"Log in\")", "button:has-text(\"Sign in\")",
  "[role=\"button\"]:has-text(\"Sign in\")", "[data-testid*=\"login\" i]"]

/-- Links to a signup form. -/
def signupLinks : List String := [
  "header a:has-text(\"Sign up\")", "header a:has-text(\"Register\")",
  "nav a:has-text(\"Sign up\")", "nav a:has-text(\"Register\")",
  "header button:has-text(\"Sign up\")", "a[href*=\"signup\" i]", "a[href*=\"sign-up\" i]",
  "a[href*=\"register\" i]", "a:has-text(\"Sign up\")", "a:has-text(\"Create account\")",
  "a:has-text(\"Register\")", "button:has-text(\"Sign up\")",
  "button:has-text(\"Create account\")", "[role=\"button\"]:has-text(\"Sign up\")",
  "[data-testid*=\"signup\" i]"]

/-- The links to a form for an intent. -/
def Intent.links : Intent → List String
  | .login => loginLinks
  | .signup => signupLinks

/-- The words that a link for an intent must not carry: those of the other intent. -/
def Intent.excludedWords : Intent → List String
  | .login => signupWords
  | .signup => loginWords

/-! ## Fields -/

/-- Fields for a user name or mail address. -/
def usernameFields : List String := [
  "input[type=\"email\"]", "input[name=\"email\" i]", "input[name=\"username\" i]",
  "input[name=\"login\" i]", "input[name=\"user\" i]", "input[name*=\"email\" i]",
  "input[name*=\"user\" i]:not([type=\"checkbox\"]):not([type=\"hidden\"])",
  "input[name*=\"login\" i]:not([type=\"checkbox\"]):not([type=\"hidden\"]):not([type=\"submit\"])",
  "input[id*=\"email\" i]", "input[id*=\"user\" i]:not([type=\"checkbox\"])",
  "input[id*=\"login\" i]:not([type=\"checkbox\"]):not([type=\"submit\"]):not([id*=\"remember\" i])",
  "input[autocomplete=\"username\"]", "input[autocomplete=\"email\"]",
  "input[placeholder*=\"email\" i]", "input[placeholder*=\"username\" i]",
  "input[aria-label*=\"email\" i]", "input[aria-label*=\"username\" i]",
  "input[class*=\"email\" i]", "input[class*=\"user\" i]:not([type=\"checkbox\"])",
  "input[type=\"text\"]:not([name*=\"search\" i])", "input:not([type])"]

/-- Fields for a full name. -/
def fullNameFields : List String := [
  "input[autocomplete=\"name\"]", "input[name=\"name\" i]", "input[name*=\"fullname\" i]",
  "input[name*=\"full_name\" i]", "input[name*=\"full-name\" i]", "input[id*=\"fullname\" i]",
  "input[id*=\"full_name\" i]", "input[id*=\"full-name\" i]",
  "input[placeholder*=\"full name\" i]", "input[aria-label*=\"full name\" i]",
  "input[placeholder*=\"your name\" i]",
  "input[name*=\"name\" i]:not([name*=\"user\" i]):not([type=\"email\"]):not([type=\"password\"])"]

/-- Fields for a password. -/
def passwordFields : List String := [
  "input[type=\"password\"]:not([name*=\"confirm\" i]):not([id*=\"confirm\" i])",
  "input[name=\"password\" i]",
  "input[name*=\"pass\" i]:not([type=\"checkbox\"]):not([name*=\"confirm\" i])",
  "input[id*=\"password\" i]:not([id*=\"confirm\" i]):not([type=\"checkbox\"])",
  "input[placeholder*=\"password\" i]:not([placeholder*=\"confirm\" i])",
  "input[aria-label*=\"password\" i]:not([aria-label*=\"confirm\" i])",
  "input[class*=\"password\" i]"]

/-- Fields for the password once more. -/
def confirmFields : List String := [
  "input[type=\"password\"][name*=\"confirm\" i]", "input[type=\"password\"][id*=\"confirm\" i]",
  "input[name*=\"password2\" i]", "input[name*=\"password_confirmation\" i]",
  "input[type=\"password\"][name*=\"repeat\" i]", "input[placeholder*=\"confirm\" i]",
  "input[aria-label*=\"confirm\" i]", "input[type=\"password\"] >> nth=1"]

/-! ## Buttons -/

/-- Buttons that submit a login form. -/
def loginButtons : List String := [
  "button[type=\"submit\"]", "input[type=\"submit\"]", "button[id*=\"login\" i]",
  "button[id*=\"signin\" i]", "button[class*=\"login\" i]", "button[class*=\"signin\" i]",
  "button:has-text(\"Log in\")", "button:has-text(\"Sign in\")", "button:has-text(\"Login\")",
  "a:has-text(\"Log in\")", "a:has-text(\"Sign in\")", "[role=\"button\"]:has-text(\"Sign in\")",
  "form button"]

/-- Buttons that submit a signup form. -/
def signupButtons : List String := [
  "button[type=\"submit\"]", "input[type=\"submit\"]", "button[id*=\"signup\" i]",
  "button[id*=\"register\" i]", "button[class*=\"signup\" i]", "button[class*=\"register\" i]",
  "button:has-text(\"Sign up\")", "button:has-text(\"Create account\")",
  "button:has-text(\"Register\")", "button:has-text(\"Join\")", "a:has-text(\"Sign up\")",
  "[role=\"button\"]:has-text(\"Sign up\")", "form button"]

/-- The buttons that submit a form for an intent. -/
def Intent.buttons : Intent → List String
  | .login => loginButtons
  | .signup => signupButtons

end BrowserScript.SignIn

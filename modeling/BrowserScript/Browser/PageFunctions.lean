/-
BrowserScript.Browser.PageFunctions — the functions that run inside pages.

Some questions to a page are answered by a function that the page itself runs. `PageFunction` lists
these questions and `PageFunction.source` is the text of each function.
-/
import BrowserScript.Text.Search

namespace BrowserScript.Browser

/-- A function that runs inside a page. -/
inductive PageFunction where
  | visibility
  | authForm
  | pageSignals
  | find
  | inspect
  | optionMatch
  | outerHtml
  | scrollIntoView
  deriving Repr, DecidableEq

namespace PageFunction

/-- The name of a function. -/
def name : PageFunction → String
  | .visibility => "visibility"
  | .authForm => "auth_form"
  | .pageSignals => "page_signals"
  | .find => "find"
  | .inspect => "inspect"
  | .optionMatch => "option_match"
  | .outerHtml => "outer_html"
  | .scrollIntoView => "scroll_into_view"

/-- The functions. -/
def all : List PageFunction :=
  [.visibility, .authForm, .pageSignals, .find, .inspect, .optionMatch, .outerHtml, .scrollIntoView]

/-- A short selector for an element, and whether it can be seen: shared by the functions that
list elements. -/
def selectorLines : List String := [
  "    const uniqueSelector = (el) => \x7b",
  "        if (el.id) return '#' + CSS.escape(el.id);",
  "        if (el.tagName === 'INPUT' && el.name) return 'input[name=\"' + el.name + '\"]';",
  "        for (const attr of ['data-testid', 'data-test', 'data-cy', 'data-qa']) \x7b",
  "            const value = el.getAttribute(attr);",
  "            if (value) return '[' + attr + '=\"' + value + '\"]';",
  "        \x7d",
  "        if (el.classList.length > 0) \x7b",
  "            return el.tagName.toLowerCase() + '.' + Array.from(el.classList).map((c) => CSS.escape(c)).join('.');",
  "        \x7d",
  "        let path = '';",
  "        let current = el;",
  "        while (current && current !== document.body) \x7b",
  "            let part = current.tagName.toLowerCase();",
  "            if (current.id) \x7b",
  "                path = part + '#' + CSS.escape(current.id) + (path ? ' > ' + path : '');",
  "                break;",
  "            \x7d",
  "            const parent = current.parentElement;",
  "            if (!parent) break;",
  "            const siblings = Array.from(parent.children).filter((s) => s.tagName === current.tagName);",
  "            if (siblings.length > 1) part += ':nth-of-type(' + (siblings.indexOf(current) + 1) + ')';",
  "            path = part + (path ? ' > ' + path : '');",
  "            current = parent;",
  "        \x7d",
  "        return path;",
  "    \x7d;",
  "    const isVisible = (el) => \x7b",
  "        const style = window.getComputedStyle(el);",
  "        const rect = el.getBoundingClientRect();",
  "        return style.display !== 'none' && style.visibility !== 'hidden'",
  "            && Number(style.opacity) > 0 && rect.width > 0 && rect.height > 0;",
  "    \x7d;"]

/-- Lists the elements one can act on. -/
def inspectLines : List String := [
  "    const found = [];",
  "    const seen = new Set();",
  "    const add = (type, el, text) => \x7b",
  "        if (seen.has(el) || !isVisible(el)) return;",
  "        seen.add(el);",
  "        found.push(\x7btype: type, selector: uniqueSelector(el), text: (text || '').trim().substring(0, 30)\x7d);",
  "    \x7d;",
  "    document.querySelectorAll(",
  "        'input[type=\"search\"], input[placeholder*=\"search\" i], input[name*=\"search\" i], input[id*=\"search\" i]'",
  "    ).forEach((el) => add('Search input', el, el.placeholder || el.name || el.id));",
  "    document.querySelectorAll('input[type=\"text\"], input[type=\"email\"], input[type=\"password\"], textarea')",
  "        .forEach((el) => add('Text input', el, el.placeholder || el.name || el.id));",
  "    document.querySelectorAll('button, [role=\"button\"], input[type=\"submit\"]')",
  "        .forEach((el) => add('Button', el, el.innerText || el.value));",
  "    document.querySelectorAll('a[href]').forEach((el) => \x7b",
  "        if ((el.innerText || '').trim()) add('Link', el, el.innerText);",
  "    \x7d);",
  "    document.querySelectorAll('select').forEach((el) => add('Select', el, el.name || el.id));",
  "    return found.slice(0, limit);",
  "\x7d"]

/-- Lists the elements that carry a text. -/
def findLines : List String := [
  "    const ownText = (el) => (el.innerText || el.textContent || '').trim().toLowerCase();",
  "    const matches = [];",
  "    for (const el of document.querySelectorAll('body *')) \x7b",
  "        if (matches.length >= limit) break;",
  "        if (!isVisible(el)) continue;",
  "        const text = ownText(el);",
  "        const attrs = ['placeholder', 'aria-label', 'name', 'title']",
  "            .map((a) => (el.getAttribute(a) || '').toLowerCase());",
  "        // Text matches go to the innermost element carrying the text",
  "        const textHit = text.includes(needle)",
  "            && !Array.from(el.children).some((c) => ownText(c).includes(needle));",
  "        const attrHit = attrs.some((a) => a && a.includes(needle));",
  "        if (!textHit && !attrHit) continue;",
  "        matches.push(\x7b",
  "            element: el.tagName.toLowerCase(),",
  "            text: (text || attrs.find((a) => a) || '').substring(0, 80),",
  "            selector: uniqueSelector(el),",
  "        \x7d);",
  "    \x7d",
  "    return matches;",
  "\x7d"]

/-- Whether an element can be seen. -/
def visibilityLines : List String := [
  "(el) => \x7b",
  "    if (!el.isConnected) return false;",
  "    if (el.getClientRects().length === 0) return false;",
  "    const style = window.getComputedStyle(el);",
  "    if (style.display === 'none' || style.visibility === 'hidden') return false;",
  "    if (Number(style.opacity) === 0) return false;",
  "    const rect = el.getBoundingClientRect();",
  "    return rect.width > 0 && rect.height > 0;",
  "\x7d"]

/-- Describes the forms of the page. -/
def authFormLines : List String := [
  "() => \x7b",
  "    const visible = (el) => \x7b",
  "        const style = window.getComputedStyle(el);",
  "        const rect = el.getBoundingClientRect();",
  "        return style.display !== 'none' && style.visibility !== 'hidden'",
  "            && rect.width > 0 && rect.height > 0;",
  "    \x7d;",
  "    return Array.from(document.querySelectorAll('form')).map((form) => (\x7b",
  "        visible: visible(form),",
  "        action: form.getAttribute('action') || '',",
  "        input_names: Array.from(form.querySelectorAll('input')).map((i) => i.name || ''),",
  "        has_password: form.querySelector('input[type=\"password\"]') !== null,",
  "        has_submit: form.querySelector(",
  "            'button[type=\"submit\"], input[type=\"submit\"], button:not([type])'",
  "        ) !== null,",
  "    \x7d));",
  "\x7d"]

/-- Tells what speaks for a login or a signup page. -/
def pageSignalsLines : List String := [
  "() => \x7b",
  "    const visible = (el) => \x7b",
  "        const style = window.getComputedStyle(el);",
  "        const rect = el.getBoundingClientRect();",
  "        return style.display !== 'none' && style.visibility !== 'hidden'",
  "            && rect.width > 0 && rect.height > 0;",
  "    \x7d;",
  "    const inputs = Array.from(document.querySelectorAll('input')).filter(visible);",
  "    const hint = (el) => [",
  "        el.name, el.id, el.placeholder,",
  "        el.getAttribute('autocomplete'), el.getAttribute('aria-label'),",
  "    ].join(' ').toLowerCase();",
  "    const hasName = inputs.some((el) => \x7b",
  "        const type = (el.type || 'text').toLowerCase();",
  "        if (['email', 'password', 'hidden', 'checkbox', 'radio', 'submit'].includes(type)) return false;",
  "        const h = hint(el);",
  "        if (/user.?name|login|email/.test(h)) return false;",
  "        return /full.?name|first.?name|last.?name|your name|(^|\\s)name(\\s|$)/.test(h);",
  "    \x7d);",
  "    const passwords = inputs.filter((el) => (el.type || '').toLowerCase() === 'password');",
  "    const hasConfirm = passwords.length > 1",
  "        || passwords.some((el) => /confirm|repeat|again|verify|password2/.test(hint(el)));",
  "    const text = (document.body && document.body.innerText) || '';",
  "    return \x7btext: text.slice(0, 5000), has_name_field: hasName, has_confirm_password: hasConfirm\x7d;",
  "\x7d"]

/-- Which part of an option equals a text. -/
def optionMatchLines : List String := [
  "(select, wanted) => \x7b",
  "    const options = Array.from(select.options || []);",
  "    if (options.some((o) => o.value === wanted)) return 'value';",
  "    if (options.some((o) => o.label === wanted)) return 'label';",
  "    return null;",
  "\x7d"]

/-- The lines of a function. -/
def lines : PageFunction → List String
  | .visibility => visibilityLines
  | .authForm => authFormLines
  | .pageSignals => pageSignalsLines
  | .find => "([needle, limit]) => \x7b" :: selectorLines ++ "" :: findLines
  | .inspect => "(limit) => \x7b" :: selectorLines ++ "" :: inspectLines
  | .optionMatch => optionMatchLines
  | .outerHtml => ["el => el.outerHTML"]
  | .scrollIntoView => ["el => el.scrollIntoView(\x7bblock: 'center'\x7d)"]

/-- The text of a function. -/
def source (s : PageFunction) : String := Text.joined "\n" s.lines

end PageFunction
end BrowserScript.Browser

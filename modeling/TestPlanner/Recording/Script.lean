import TestPlanner.Configuration.Basic
import TestPlanner.Text.Quoted

/-!
# The script of a recording

A session is recorded by a script that opens a browser on the start address and reports the events
of the page, one JSON object per line. In the page, a listener catches clicks and changes and
chooses a selector for the element: a test identifier, an identifier that is no number, a name, the
text of a link or button, or the tag.
-/

set_option autoImplicit false

namespace TestPlanner.Recording

/-- The listener that is installed in every page. -/
def captureScript : String :=
  "\n".intercalate [
    "() => \x7b",
    "  const bestSelector = (el) => \x7b",
    "    const attr = (name) => (el.getAttribute ? el.getAttribute(name) : null);",
    "    if (attr('data-testid')) return `[data-testid=\"$\x7battr('data-testid')\x7d\"]`;",
    "    if (attr('data-test')) return `[data-test=\"$\x7battr('data-test')\x7d\"]`;",
    "    if (el.id && !/^\\d+$/.test(el.id)) return `#$\x7bel.id\x7d`;",
    "    if (attr('name')) return `[name=\"$\x7battr('name')\x7d\"]`;",
    "    const interactive = el.tagName === 'A' || el.tagName === 'BUTTON' || el.type === 'submit';",
    "    const firstLine = (el.innerText || '').trim().split('\\n')[0].trim();",
    "    if (interactive && firstLine) return `text=$\x7bfirstLine\x7d`;",
    "    return el.tagName.toLowerCase();",
    "  \x7d;",
    "  const elementText = (el) => \x7b",
    "    const text = (el.innerText || '').trim() || (el.value || '').trim() || el.name || '';",
    "    return text.split('\\n')[0].trim().slice(0, 50);",
    "  \x7d;",
    "  const fieldLabel = (el) => \x7b",
    "    const label = (el.labels && el.labels[0]) || el.closest('label');",
    "    return (label && label.innerText.trim()) || el.name || '';",
    "  \x7d;",
    "  const listener = (event) => \x7b",
    "    const el = event.target;",
    "    if (!el || !window.onUserAction) return;",
    "    if (event.type === 'click' && el.tagName) \x7b",
    "      window.onUserAction(\x7b",
    "        type: 'click',",
    "        selector: bestSelector(el),",
    "        text: elementText(el),",
    "        tag: el.tagName.toLowerCase(),",
    "        inputType: el.tagName === 'INPUT' ? el.type : null,",
    "      \x7d);",
    "    \x7d else if (event.type === 'change' && (el.tagName === 'INPUT' || el.tagName === 'TEXTAREA')) \x7b",
    "      window.onUserAction(\x7b",
    "        type: 'fill',",
    "        selector: bestSelector(el),",
    "        text: fieldLabel(el),",
    "        value: el.value,",
    "      \x7d);",
    "    \x7d",
    "  \x7d;",
    "  document.addEventListener('click', listener, \x7b capture: true, passive: true \x7d);",
    "  document.addEventListener('change', listener, \x7b capture: true, passive: true \x7d);",
    "\x7d"]

/-- The script that records a session from a start address. -/
def script (settings : RecordingSettings) (start : String) : String :=
  "\n".intercalate [
    "",
    "const \x7b chromium, firefox, webkit \x7d = require(require.resolve('playwright', \x7b paths: [process.cwd()] \x7d));",
    "",
    "const emit = (event) => process.stdout.write(JSON.stringify(event) + '\\n');",
    "",
    "(async () => \x7b",
    "  let browser;",
    "  try \x7b",
    "    browser = await " ++ settings.browser.name ++ ".launch(\x7b headless: false \x7d);",
    "    const finished = new Promise((resolve) => browser.on('disconnected', resolve));",
    "    const context = await browser.newContext(\x7b",
    "      viewport: \x7b width: " ++ toString settings.viewportWidth ++ ", height: " ++ toString settings.viewportHeight ++ " \x7d",
    "    \x7d);",
    "    const page = await context.newPage();",
    "    const closed = new Promise((resolve) => page.on('close', resolve));",
    "",
    "    await page.exposeFunction('onUserAction', (action) => emit(\x7b event: 'action', ...action \x7d));",
    "    await page.addInitScript(" ++ captureScript ++ ");",
    "",
    "    await page.goto('" ++ Text.Quoted.escaped start ++ "');",
    "    emit(\x7b event: 'ready', title: await page.title() \x7d);",
    "",
    "    await Promise.race([closed, finished]);",
    "    emit(\x7b event: 'closed' \x7d);",
    "  \x7d catch (error) \x7b",
    "    emit(\x7b event: 'error', message: error.message \x7d);",
    "    process.exitCode = 1;",
    "  \x7d finally \x7b",
    "    if (browser) \x7b",
    "      await browser.close().catch(() => \x7b\x7d);",
    "    \x7d",
    "  \x7d",
    "\x7d)();",
    ""]

end TestPlanner.Recording

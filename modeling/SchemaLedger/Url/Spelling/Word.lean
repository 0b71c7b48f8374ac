import SchemaLedger.Text.Split

/-! # Other ways to write characters

Characters that stand for others in a domain name: letters in other shapes, ligatures, signs made
up of letters. -/

namespace SchemaLedger.Url.Spelling

/-- Characters, each with what is written for it, with bars between them. -/
def rows : List String :=
  ["\u00a0 |¨ \u0308|ªa|¯ \u0304|²2|³3|´ \u0301|µμ|¸ \u0327|¹1|ºo|¼1⁄4|½1⁄2|¾3⁄4|Øø|Ùù|Úú|Ûû|Üü",
   "Ýý|Þþ|İi\u0307|Ĳij|ĳij|Ĵĵ|Ķķ|Ĺĺ|Ļļ|Ľľ|Ŀl·|ŀl·|Łł|Ńń|Ņņ|Ňň|ŉʼn|Ÿÿ|Źź|Żż|Žž|ſs|Ɓɓ|Ƃƃ|Ƅƅ|Ɔɔ|Ƈƈ",
   "Ɖɖ|Ɗɗ|Ƌƌ|Ǝǝ|Əə|Ɛɛ|Ƒƒ|Ɠɠ|Ɣɣ|Ɩɩ|Ɨɨ|Ƙƙ|Ɯɯ|Ɲɲ|Ɵɵ|Ơơ|Ƣƣ|Ƥƥ|Ʀʀ|Ƨƨ|Ʃʃ|Ƭƭ|Ʈʈ|Ưư|Ʊʊ|Ʋʋ|Ƴƴ|Ƶƶ|Ʒʒ|Ƹƹ|Ƽƽ",
   "Ǆdž|ǅdž|ǆdž|Ǉlj|ǈlj|ǉlj|Ǌnj|ǋnj|ǌnj|Ǳdz|ǲdz|ǳdz|Ǵǵ|Ƕƕ|Ƿƿ|Ƞƞ|Ⱥⱥ|Ȼȼ|Ƚƚ|Ⱦⱦ|Ɂɂ|Ƀƀ|Ʉʉ|Ʌʌ|Ɇɇ|Ɉɉ|Ɋɋ",
   "Ɍɍ|Ɏɏ|ʰh|ʱɦ|ʲj|ʳr|ʴɹ|ʵɻ|ʶʁ|ʷw|ʸy|˘ \u0306|˙ \u0307|˚ \u030a|˛ \u0328|˜ \u0303|˝ \u030b|ˠɣ|ˡl",
   "ˢs|ˣx|ˤʕ|\u0345ι|Ͱͱ|Ͳͳ|Ͷͷ|ͺ ι|Ϳϳ|΄ \u0301|΅ \u0308\u0301|Άά|Έέ|Ήή|Ίί|Όό|Ύύ|Ώώ|Ϗϗ|ϐβ|ϑθ|ϒυ|ϓύ",
   "ϔϋ|ϕφ|ϖπ|ϰκ|ϱρ|ϲσ|ϴθ|ϵε|Ϸϸ|Ϲσ|Ϻϻ|Ͻͻ|Ͼͼ|Ͽͽ|Ӏӏ|Ӂӂ|Ӄӄ|Ӆӆ|Ӈӈ|Ӊӊ|Ӌӌ|Ӎӎ|ևեւ|ٵاٴ|ٶوٴ|ٷۇٴ|ٸيٴ",
   "ำ\u0e4dา|ຳ\u0ecdາ|ໜຫນ|ໝຫມ|༌་|\u0f77\u0fb2\u0f71\u0f80|\u0f79\u0fb3\u0f71\u0f80|Ⴧⴧ|Ⴭⴭ|ჼნ|ᏸᏰ",
   "ᏹᏱ|ᏺᏲ|ᏻᏳ|ᏼᏴ|ᏽᏵ|ᲀв|ᲁд|ᲂо|ᲃс|ᲄт|ᲅт|ᲆъ|ᲇѣ|ᲈꙋ|Ᲊᲊ|Ჽჽ|Ჾჾ|Ჿჿ|ᴬa|ᴭæ|ᴮb|ᴰd|ᴱe|ᴲǝ|ᴼo|ᴽȣ|ᴾp|ᴿr|ᵀt|ᵁu|ᵂw",
   "ᵃa|ᵄɐ|ᵅɑ|ᵆᴂ|ᵇb|ᵈd|ᵉe|ᵊə|ᵋɛ|ᵌɜ|ᵍg|ᵏk|ᵐm|ᵑŋ|ᵒo|ᵓɔ|ᵔᴖ|ᵕᴗ|ᵖp|ᵗt|ᵘu|ᵙᴝ|ᵚɯ|ᵛv|ᵜᴥ|ᵝβ|ᵞγ|ᵟδ|ᵠφ|ᵡχ|ᵢi",
   "ᵣr|ᵤu|ᵥv|ᵦβ|ᵧγ|ᵨρ|ᵩφ|ᵪχ|ᵸн|ᶛɒ|ᶜc|ᶝɕ|ᶞð|ᶟɜ|ᶠf|ᶡɟ|ᶢɡ|ᶣɥ|ᶤɨ|ᶥɩ|ᶦɪ|ᶧᵻ|ᶨʝ|ᶩɭ|ᶪᶅ|ᶫʟ|ᶬɱ|ᶭɰ|ᶮɲ|ᶯɳ|ᶰɴ",
   "ᶱɵ|ᶲɸ|ᶳʂ|ᶴʃ|ᶵƫ|ᶶʉ|ᶷʊ|ᶸᴜ|ᶹʋ|ᶺʌ|ᶻz|ᶼʐ|ᶽʑ|ᶾʒ|ᶿθ|ẚaʾ|ẛṡ|ẞß|Ἐἐ|Ἑἑ|Ἒἒ|Ἓἓ|Ἔἔ|Ἕἕ|Ὀὀ|Ὁὁ|Ὂὂ|Ὃὃ|Ὄὄ|Ὅὅ",
   "Ὑὑ|Ὓὓ|Ὕὕ|Ὗὗ|ᾀἀι|ᾁἁι|ᾂἂι|ᾃἃι|ᾄἄι|ᾅἅι|ᾆἆι|ᾇἇι|ᾈἀι|ᾉἁι|ᾊἂι|ᾋἃι|ᾌἄι|ᾍἅι|ᾎἆι|ᾏἇι|ᾐἠι|ᾑἡι|ᾒἢι|ᾓἣι",
   "ᾔἤι|ᾕἥι|ᾖἦι|ᾗἧι|ᾘἠι|ᾙἡι|ᾚἢι|ᾛἣι|ᾜἤι|ᾝἥι|ᾞἦι|ᾟἧι|ᾠὠι|ᾡὡι|ᾢὢι|ᾣὣι|ᾤὤι|ᾥὥι|ᾦὦι|ᾧὧι|ᾨὠι|ᾩὡι|ᾪὢι",
   "ᾫὣι|ᾬὤι|ᾭὥι|ᾮὦι|ᾯὧι|ᾲὰι|ᾳαι|ᾴάι|ᾷᾶι|Ᾰᾰ|Ᾱᾱ|Ὰὰ|Άά|ᾼαι|᾽ \u0313|᾿ \u0313|῀ \u0342",
   "῁ \u0308\u0342|ῂὴι|ῃηι|ῄήι|ῇῆι|Ὲὲ|Έέ|Ὴὴ|Ήή|ῌηι|῍ \u0313\u0300|῎ \u0313\u0301|῏ \u0313\u0342",
   "Ῐῐ|Ῑῑ|Ὶὶ|Ίί|῝ \u0314\u0300|῞ \u0314\u0301|῟ \u0314\u0342|Ῠῠ|Ῡῡ|Ὺὺ|Ύύ|Ῥῥ|῭ \u0308\u0300",
   "΅ \u0308\u0301|ῲὼι|ῳωι|ῴώι|ῷῶι|Ὸὸ|Όό|Ὼὼ|Ώώ|ῼωι|´ \u0301|῾ \u0314|\u2000 |\u2001 |\u2002 ",
   "\u2003 |\u2004 |\u2005 |\u2006 |\u2007 |\u2008 |\u2009 |\u200a |‑‐|‗ \u0333|\u202f |″′′|‴′′′",
   "‶‵‵|‷‵‵‵|‼!!|‾ \u0305|⁇??|⁈?!|⁉!?|⁗′′′′|\u205f |⁰0|ⁱi|⁴4|⁵5|⁶6|⁷7|⁸8|⁹9|⁺+|⁻−|⁼=|⁽(|⁾)|ⁿn|₊+",
   "₋−|₌=|₍(|₎)|ₐa|ₑe|ₒo|ₓx|ₔə|ₕh|ₖk|ₗl|ₘm|ₙn|ₚp|ₛs|ₜt|₨rs|℀a/c|℁a/s|ℂc|℃°c|℅c/o|℆c/u|ℇɛ|℉°f|ℊg",
   "ℋh|ℌh|ℍh|ℎh|ℏħ|ℐi|ℑi|ℒl|ℓl|ℕn|№no|ℙp|ℚq|ℛr|ℜr|ℝr|℠sm|℡tel|™tm|ℤz|Ωω|ℨz|Kk|Åå|ℬb|ℭc|ℯe|ℰe|ℱf",
   "Ⅎⅎ|ℳm|ℴo|ℵא|ℶב|ℷג|ℸד|ℹi|℻fax|ℼπ|ℽγ|ℾγ|ℿπ|⅀∑|ⅅd|ⅆd|ⅇe|ⅈi|ⅉj|⅐1⁄7|⅑1⁄9|⅒1⁄10|⅓1⁄3|⅔2⁄3|⅕1⁄5",
   "⅖2⁄5|⅗3⁄5|⅘4⁄5|⅙1⁄6|⅚5⁄6|⅛1⁄8|⅜3⁄8|⅝5⁄8|⅞7⁄8|⅟1⁄|Ⅰi|Ⅱii|Ⅲiii|Ⅳiv|Ⅴv|Ⅵvi|Ⅶvii|Ⅷviii|Ⅸix|Ⅹx",
   "Ⅺxi|Ⅻxii|Ⅼl|Ⅽc|Ⅾd|Ⅿm|ⅰi|ⅱii|ⅲiii|ⅳiv|ⅴv|ⅵvi|ⅶvii|ⅷviii|ⅸix|ⅹx|ⅺxi|ⅻxii|ⅼl|ⅽc|ⅾd|ⅿm|Ↄↄ|↉0⁄3",
   "∬∫∫|∭∫∫∫|∯∮∮|∰∮∮∮|⑩10|⑪11|⑫12|⑬13|⑭14|⑮15|⑯16|⑰17|⑱18|⑲19|⑳20|⑴(1)|⑵(2)|⑶(3)|⑷(4)|⑸(5)|⑹(6)",
   "⑺(7)|⑻(8)|⑼(9)|⑽(10)|⑾(11)|⑿(12)|⒀(13)|⒁(14)|⒂(15)|⒃(16)|⒄(17)|⒅(18)|⒆(19)|⒇(20)|⒜(a)|⒝(b)",
   "⒞(c)|⒟(d)|⒠(e)|⒡(f)|⒢(g)|⒣(h)|⒤(i)|⒥(j)|⒦(k)|⒧(l)|⒨(m)|⒩(n)|⒪(o)|⒫(p)|⒬(q)|⒭(r)|⒮(s)|⒯(t)",
   "⒰(u)|⒱(v)|⒲(w)|⒳(x)|⒴(y)|⒵(z)|⓪0|⨌∫∫∫∫|⩴::=|⩵==|⩶===|Ⱡⱡ|Ɫɫ|Ᵽᵽ|Ɽɽ|Ⱨⱨ|Ⱪⱪ|Ⱬⱬ|Ɑɑ|Ɱɱ|Ɐɐ|Ɒɒ|Ⱳⱳ|Ⱶⱶ",
   "ⱼj|ⱽv|Ȿȿ|Ɀɀ|Ⳬⳬ|Ⳮⳮ|Ⳳⳳ|ⵯⵡ|⺟母|⻳龟|⼀一|⼁丨|⼂丶|⼃丿|⼄乙|⼅亅|⼆二|⼇亠|⼈人|⼉儿|⼊入|⼋八|⼌冂|⼍冖|⼎冫|⼏几|⼐凵|⼑刀|⼒力|⼓勹|⼔匕",
   "⼕匚|⼖匸|⼗十|⼘卜|⼙卩|⼚厂|⼛厶|⼜又|⼝口|⼞囗|⼟土|⼠士|⼡夂|⼢夊|⼣夕|⼤大|⼥女|⼦子|⼧宀|⼨寸|⼩小|⼪尢|⼫尸|⼬屮|⼭山|⼮巛|⼯工|⼰己|⼱巾|⼲干|⼳幺",
   "⼴广|⼵廴|⼶廾|⼷弋|⼸弓|⼹彐|⼺彡|⼻彳|⼼心|⼽戈|⼾戶|⼿手|⽀支|⽁攴|⽂文|⽃斗|⽄斤|⽅方|⽆无|⽇日|⽈曰|⽉月|⽊木|⽋欠|⽌止|⽍歹|⽎殳|⽏毋|⽐比|⽑毛|⽒氏",
   "⽓气|⽔水|⽕火|⽖爪|⽗父|⽘爻|⽙爿|⽚片|⽛牙|⽜牛|⽝犬|⽞玄|⽟玉|⽠瓜|⽡瓦|⽢甘|⽣生|⽤用|⽥田|⽦疋|⽧疒|⽨癶|⽩白|⽪皮|⽫皿|⽬目|⽭矛|⽮矢|⽯石|⽰示|⽱禸",
   "⽲禾|⽳穴|⽴立|⽵竹|⽶米|⽷糸|⽸缶|⽹网|⽺羊|⽻羽|⽼老|⽽而|⽾耒|⽿耳|⾀聿|⾁肉|⾂臣|⾃自|⾄至|⾅臼|⾆舌|⾇舛|⾈舟|⾉艮|⾊色|⾋艸|⾌虍|⾍虫|⾎血|⾏行|⾐衣",
   "⾑襾|⾒見|⾓角|⾔言|⾕谷|⾖豆|⾗豕|⾘豸|⾙貝|⾚赤|⾛走|⾜足|⾝身|⾞車|⾟辛|⾠辰|⾡辵|⾢邑|⾣酉|⾤釆|⾥里|⾦金|⾧長|⾨門|⾩阜|⾪隶|⾫隹|⾬雨|⾭靑|⾮非|⾯面",
   "⾰革|⾱韋|⾲韭|⾳音|⾴頁|⾵風|⾶飛|⾷食|⾸首|⾹香|⾺馬|⾻骨|⾼高|⾽髟|⾾鬥|⾿鬯|⿀鬲|⿁鬼|⿂魚|⿃鳥|⿄鹵|⿅鹿|⿆麥|⿇麻|⿈黃|⿉黍|⿊黑|⿋黹|⿌黽|⿍鼎|⿎鼓",
   "⿏鼠|⿐鼻|⿑齊|⿒齒|⿓龍|⿔龜|⿕龠|\u3000 |。.|〶〒|〸十|〹卄|〺卅|゛ \u3099|゜ \u309a|ゟより|ヿコト|ㄱᄀ|ㄲᄁ|ㄳᆪ|ㄴᄂ|ㄵᆬ|ㄶᆭ|ㄷᄃ",
   "ㄸᄄ|ㄹᄅ|ㄺᆰ|ㄻᆱ|ㄼᆲ|ㄽᆳ|ㄾᆴ|ㄿᆵ|ㅀᄚ|ㅁᄆ|ㅂᄇ|ㅃᄈ|ㅄᄡ|ㅥᄔ|ㅦᄕ|ㅧᇇ|ㅨᇈ|ㅩᇌ|ㅪᇎ|ㅫᇓ|ㅬᇗ|ㅭᇙ|ㅮᄜ|ㅯᇝ|ㅰᇟ|ㅱᄝ|ㅲᄞ|ㅳᄠ|ㅴᄢ|ㅵᄣ|ㅶᄧ",
   "ㅷᄩ|ㅸᄫ|ㅹᄬ|ㅺᄭ|ㅻᄮ|ㅼᄯ|ㅽᄲ|ㅾᄶ|ㅿᅀ|ㆀᅇ|ㆁᅌ|ㆂᇱ|ㆃᇲ|ㆄᅗ|ㆅᅘ|ㆆᅙ|ㆇᆄ|ㆈᆅ|ㆉᆈ|ㆊᆑ|ㆋᆒ|ㆌᆔ|ㆍᆞ|ㆎᆡ|㆒一|㆓二|㆔三|㆕四|㆖上|㆗中|㆘下",
   "㆙甲|㆚乙|㆛丙|㆜丁|㆝天|㆞地|㆟人|㈀(ᄀ)|㈁(ᄂ)|㈂(ᄃ)|㈃(ᄅ)|㈄(ᄆ)|㈅(ᄇ)|㈆(ᄉ)|㈇(ᄋ)|㈈(ᄌ)|㈉(ᄎ)|㈊(ᄏ)|㈋(ᄐ)|㈌(ᄑ)|㈍(ᄒ)",
   "㈎(가)|㈏(나)|㈐(다)|㈑(라)|㈒(마)|㈓(바)|㈔(사)|㈕(아)|㈖(자)|㈗(차)|㈘(카)|㈙(타)|㈚(파)|㈛(하)|㈜(주)|㈝(오전)|㈞(오후)|㈠(一)",
   "㈡(二)|㈢(三)|㈣(四)|㈤(五)|㈥(六)|㈦(七)|㈧(八)|㈨(九)|㈩(十)|㈪(月)|㈫(火)|㈬(水)|㈭(木)|㈮(金)|㈯(土)|㈰(日)|㈱(株)|㈲(有)",
   "㈳(社)|㈴(名)|㈵(特)|㈶(財)|㈷(祝)|㈸(労)|㈹(代)|㈺(呼)|㈻(学)|㈼(監)|㈽(企)|㈾(資)|㈿(協)|㉀(祭)|㉁(休)|㉂(自)|㉃(至)|㉄問|㉅幼",
   "㉆文|㉇箏|㉐pte|㉑21|㉒22|㉓23|㉔24|㉕25|㉖26|㉗27|㉘28|㉙29|㉚30|㉛31|㉜32|㉝33|㉞34|㉟35|㉠ᄀ|㉡ᄂ|㉢ᄃ|㉣ᄅ|㉤ᄆ|㉥ᄇ|㉦ᄉ",
   "㉧ᄋ|㉨ᄌ|㉩ᄎ|㉪ᄏ|㉫ᄐ|㉬ᄑ|㉭ᄒ|㉮가|㉯나|㉰다|㉱라|㉲마|㉳바|㉴사|㉵아|㉶자|㉷차|㉸카|㉹타|㉺파|㉻하|㉼참고|㉽주의|㉾우|㊀一|㊁二|㊂三|㊃四|㊄五|㊅六",
   "㊆七|㊇八|㊈九|㊉十|㊊月|㊋火|㊌水|㊍木|㊎金|㊏土|㊐日|㊑株|㊒有|㊓社|㊔名|㊕特|㊖財|㊗祝|㊘労|㊙秘|㊚男|㊛女|㊜適|㊝優|㊞印|㊟注|㊠項|㊡休|㊢写|㊣正|㊤上",
   "㊥中|㊦下|㊧左|㊨右|㊩医|㊪宗|㊫学|㊬監|㊭企|㊮資|㊯協|㊰夜|㊱36|㊲37|㊳38|㊴39|㊵40|㊶41|㊷42|㊸43|㊹44|㊺45|㊻46|㊼47|㊽48|㊾49",
   "㊿50|㋀1月|㋁2月|㋂3月|㋃4月|㋄5月|㋅6月|㋆7月|㋇8月|㋈9月|㋉10月|㋊11月|㋋12月|㋌hg|㋍erg|㋎ev|㋏ltd|㋐ア|㋑イ|㋒ウ|㋓エ|㋔オ|㋕カ",
   "㋖キ|㋗ク|㋘ケ|㋙コ|㋚サ|㋛シ|㋜ス|㋝セ|㋞ソ|㋟タ|㋠チ|㋡ツ|㋢テ|㋣ト|㋤ナ|㋥ニ|㋦ヌ|㋧ネ|㋨ノ|㋩ハ|㋪ヒ|㋫フ|㋬ヘ|㋭ホ|㋮マ|㋯ミ|㋰ム|㋱メ|㋲モ|㋳ヤ|㋴ユ",
   "㋵ヨ|㋶ラ|㋷リ|㋸ル|㋹レ|㋺ロ|㋻ワ|㋼ヰ|㋽ヱ|㋾ヲ|㋿令和|㌀アパート|㌁アルファ|㌂アンペア|㌃アール|㌄イニング|㌅インチ|㌆ウォン|㌇エスクード|㌈エーカー|㌉オンス",
   "㌊オーム|㌋カイリ|㌌カラット|㌍カロリー|㌎ガロン|㌏ガンマ|㌐ギガ|㌑ギニー|㌒キュリー|㌓ギルダー|㌔キロ|㌕キログラム|㌖キロメートル|㌗キロワット|㌘グラム|㌙グラムトン",
   "㌚クルゼイロ|㌛クローネ|㌜ケース|㌝コルナ|㌞コーポ|㌟サイクル|㌠サンチーム|㌡シリング|㌢センチ|㌣セント|㌤ダース|㌥デシ|㌦ドル|㌧トン|㌨ナノ|㌩ノット|㌪ハイツ",
   "㌫パーセント|㌬パーツ|㌭バーレル|㌮ピアストル|㌯ピクル|㌰ピコ|㌱ビル|㌲ファラッド|㌳フィート|㌴ブッシェル|㌵フラン|㌶ヘクタール|㌷ペソ|㌸ペニヒ|㌹ヘルツ|㌺ペンス",
   "㌻ページ|㌼ベータ|㌽ポイント|㌾ボルト|㌿ホン|㍀ポンド|㍁ホール|㍂ホーン|㍃マイクロ|㍄マイル|㍅マッハ|㍆マルク|㍇マンション|㍈ミクロン|㍉ミリ|㍊ミリバール|㍋メガ",
   "㍌メガトン|㍍メートル|㍎ヤード|㍏ヤール|㍐ユアン|㍑リットル|㍒リラ|㍓ルピー|㍔ルーブル|㍕レム|㍖レントゲン|㍗ワット|㍘0点|㍙1点|㍚2点|㍛3点|㍜4点|㍝5点|㍞6点",
   "㍟7点|㍠8点|㍡9点|㍢10点|㍣11点|㍤12点|㍥13点|㍦14点|㍧15点|㍨16点|㍩17点|㍪18点|㍫19点|㍬20点|㍭21点|㍮22点|㍯23点|㍰24点|㍱hpa",
   "㍲da|㍳au|㍴bar|㍵ov|㍶pc|㍷dm|㍸dm2|㍹dm3|㍺iu|㍻平成|㍼昭和|㍽大正|㍾明治|㍿株式会社|㎀pa|㎁na|㎂μa|㎃ma|㎄ka|㎅kb|㎆mb|㎇gb",
   "㎈cal|㎉kcal|㎊pf|㎋nf|㎌μf|㎍μg|㎎mg|㎏kg|㎐hz|㎑khz|㎒mhz|㎓ghz|㎔thz|㎕μl|㎖ml|㎗dl|㎘kl|㎙fm|㎚nm|㎛μm|㎜mm",
   "㎝cm|㎞km|㎟mm2|㎠cm2|㎡m2|㎢km2|㎣mm3|㎤cm3|㎥m3|㎦km3|㎧m∕s|㎨m∕s2|㎩pa|㎪kpa|㎫mpa|㎬gpa|㎭rad|㎮rad∕s",
   "㎯rad∕s2|㎰ps|㎱ns|㎲μs|㎳ms|㎴pv|㎵nv|㎶μv|㎷mv|㎸kv|㎹mv|㎺pw|㎻nw|㎼μw|㎽mw|㎾kw|㎿mw|㏀kω|㏁mω|㏃bq|㏄cc|㏅cd",
   "㏆c∕kg|㏈db|㏉gy|㏊ha|㏋hp|㏌in|㏍kk|㏎km|㏏kt|㏐lm|㏑ln|㏒log|㏓lx|㏔mb|㏕mil|㏖mol|㏗ph|㏙ppm|㏚pr|㏛sr|㏜sv",
   "㏝wb|㏞v∕m|㏟a∕m|㏠1日|㏡2日|㏢3日|㏣4日|㏤5日|㏥6日|㏦7日|㏧8日|㏨9日|㏩10日|㏪11日|㏫12日|㏬13日|㏭14日|㏮15日|㏯16日|㏰17日",
   "㏱18日|㏲19日|㏳20日|㏴21日|㏵22日|㏶23日|㏷24日|㏸25日|㏹26日|㏺27日|㏻28日|㏼29日|㏽30日|㏾31日|㏿gal|ꚜъ|ꚝь|Ꜣꜣ|Ꜥꜥ|Ꜧꜧ|Ꜩꜩ",
   "Ꜫꜫ|Ꜭꜭ|Ꜯꜯ|ꝰꝯ|Ꝺꝺ|Ꝼꝼ|Ᵹᵹ|Ꝿꝿ|Ꞁꞁ|Ꞃꞃ|Ꞅꞅ|Ꞇꞇ|Ꞌꞌ|Ɥɥ|Ꞑꞑ|Ꞓꞓ|Ɦɦ|Ɜɜ|Ɡɡ|Ɬɬ|Ɪɪ|Ʞʞ|Ʇʇ|Ʝʝ|Ꭓꭓ|Ꞔꞔ|Ʂʂ|Ᶎᶎ|Ꟈꟈ|Ꟊꟊ|Ɤɤ",
   "Ƛƛ|꟱s|ꟲc|ꟳf|ꟴq|Ꟶꟶ|ꟸħ|ꟹœ|ꭜꜧ|ꭝꬷ|ꭞɫ|ꭟꭒ|ꭩʍ|ﬀff|ﬁfi|ﬂfl|ﬃffi|ﬄffl|ﬅst|ﬆst|ﬓմն|ﬔմե|ﬕմի|ﬖվն|ﬗմխ|ﬠע",
   "ﬡא|ﬢד|ﬣה|ﬤכ|ﬥל|ﬦם|ﬧר|ﬨת|﬩+|ﭏאל|ﭐٱ|ﭑٱ|ﭒٻ|ﭓٻ|ﭔٻ|ﭕٻ|ﭖپ|ﭗپ|ﭘپ|ﭙپ|ﭚڀ|ﭛڀ|ﭜڀ|ﭝڀ|ﭞٺ|ﭟٺ|ﭠٺ|ﭡٺ|ﭢٿ|ﭣٿ",
   "ﭤٿ|ﭥٿ|ﭦٹ|ﭧٹ|ﭨٹ|ﭩٹ|ﭪڤ|ﭫڤ|ﭬڤ|ﭭڤ|ﭮڦ|ﭯڦ|ﭰڦ|ﭱڦ|ﭲڄ|ﭳڄ|ﭴڄ|ﭵڄ|ﭶڃ|ﭷڃ|ﭸڃ|ﭹڃ|ﭺچ|ﭻچ|ﭼچ|ﭽچ|ﭾڇ|ﭿڇ|ﮀڇ|ﮁڇ|ﮂڍ",
   "ﮃڍ|ﮄڌ|ﮅڌ|ﮆڎ|ﮇڎ|ﮈڈ|ﮉڈ|ﮊژ|ﮋژ|ﮌڑ|ﮍڑ|ﮎک|ﮏک|ﮐک|ﮑک|ﮒگ|ﮓگ|ﮔگ|ﮕگ|ﮖڳ|ﮗڳ|ﮘڳ|ﮙڳ|ﮚڱ|ﮛڱ|ﮜڱ|ﮝڱ|ﮞں|ﮟں|ﮠڻ|ﮡڻ",
   "ﮢڻ|ﮣڻ|ﮤۀ|ﮥۀ|ﮦہ|ﮧہ|ﮨہ|ﮩہ|ﮪھ|ﮫھ|ﮬھ|ﮭھ|ﮮے|ﮯے|ﮰۓ|ﮱۓ|ﯓڭ|ﯔڭ|ﯕڭ|ﯖڭ|ﯗۇ|ﯘۇ|ﯙۆ|ﯚۆ|ﯛۈ|ﯜۈ|ﯝۇٴ|ﯞۋ|ﯟۋ|ﯠۅ",
   "ﯡۅ|ﯢۉ|ﯣۉ|ﯤې|ﯥې|ﯦې|ﯧې|ﯨى|ﯩى|ﯪئا|ﯫئا|ﯬئە|ﯭئە|ﯮئو|ﯯئو|ﯰئۇ|ﯱئۇ|ﯲئۆ|ﯳئۆ|ﯴئۈ|ﯵئۈ|ﯶئې|ﯷئې|ﯸئې|ﯹئى",
   "ﯺئى|ﯻئى|ﯼی|ﯽی|ﯾی|ﯿی|ﰀئج|ﰁئح|ﰂئم|ﰃئى|ﰄئي|ﰅبج|ﰆبح|ﰇبخ|ﰈبم|ﰉبى|ﰊبي|ﰋتج|ﰌتح|ﰍتخ|ﰎتم|ﰏتى|ﰐتي|ﰑثج",
   "ﰒثم|ﰓثى|ﰔثي|ﰕجح|ﰖجم|ﰗحج|ﰘحم|ﰙخج|ﰚخح|ﰛخم|ﰜسج|ﰝسح|ﰞسخ|ﰟسم|ﰠصح|ﰡصم|ﰢضج|ﰣضح|ﰤضخ|ﰥضم|ﰦطح|ﰧطم|ﰨظم",
   "ﰩعج|ﰪعم|ﰫغج|ﰬغم|ﰭفج|ﰮفح|ﰯفخ|ﰰفم|ﰱفى|ﰲفي|ﰳقح|ﰴقم|ﰵقى|ﰶقي|ﰷكا|ﰸكج|ﰹكح|ﰺكخ|ﰻكل|ﰼكم|ﰽكى|ﰾكي|ﰿلج",
   "ﱀلح|ﱁلخ|ﱂلم|ﱃلى|ﱄلي|ﱅمج|ﱆمح|ﱇمخ|ﱈمم|ﱉمى|ﱊمي|ﱋنج|ﱌنح|ﱍنخ|ﱎنم|ﱏنى|ﱐني|ﱑهج|ﱒهم|ﱓهى|ﱔهي|ﱕيج|ﱖيح",
   "ﱗيخ|ﱘيم|ﱙيى|ﱚيي|ﱛذ\u0670|ﱜر\u0670|ﱝى\u0670|ﱞ \u064c\u0651|ﱟ \u064d\u0651|ﱠ \u064e\u0651",
   "ﱡ \u064f\u0651|ﱢ \u0650\u0651|ﱣ \u0651\u0670|ﱤئر|ﱥئز|ﱦئم|ﱧئن|ﱨئى|ﱩئي|ﱪبر|ﱫبز|ﱬبم|ﱭبن|ﱮبى|ﱯبي",
   "ﱰتر|ﱱتز|ﱲتم|ﱳتن|ﱴتى|ﱵتي|ﱶثر|ﱷثز|ﱸثم|ﱹثن|ﱺثى|ﱻثي|ﱼفى|ﱽفي|ﱾقى|ﱿقي|ﲀكا|ﲁكل|ﲂكم|ﲃكى|ﲄكي|ﲅلم|ﲆلى",
   "ﲇلي|ﲈما|ﲉمم|ﲊنر|ﲋنز|ﲌنم|ﲍنن|ﲎنى|ﲏني|ﲐى\u0670|ﲑير|ﲒيز|ﲓيم|ﲔين|ﲕيى|ﲖيي|ﲗئج|ﲘئح|ﲙئخ|ﲚئم|ﲛئه|ﲜبج",
   "ﲝبح|ﲞبخ|ﲟبم|ﲠبه|ﲡتج|ﲢتح|ﲣتخ|ﲤتم|ﲥته|ﲦثم|ﲧجح|ﲨجم|ﲩحج|ﲪحم|ﲫخج|ﲬخم|ﲭسج|ﲮسح|ﲯسخ|ﲰسم|ﲱصح|ﲲصخ|ﲳصم",
   "ﲴضج|ﲵضح|ﲶضخ|ﲷضم|ﲸطح|ﲹظم|ﲺعج|ﲻعم|ﲼغج|ﲽغم|ﲾفج|ﲿفح|ﳀفخ|ﳁفم|ﳂقح|ﳃقم|ﳄكج|ﳅكح|ﳆكخ|ﳇكل|ﳈكم|ﳉلج|ﳊلح",
   "ﳋلخ|ﳌلم|ﳍله|ﳎمج|ﳏمح|ﳐمخ|ﳑمم|ﳒنج|ﳓنح|ﳔنخ|ﳕنم|ﳖنه|ﳗهج|ﳘهم|ﳙه\u0670|ﳚيج|ﳛيح|ﳜيخ|ﳝيم|ﳞيه|ﳟئم|ﳠئه",
   "ﳡبم|ﳢبه|ﳣتم|ﳤته|ﳥثم|ﳦثه|ﳧسم|ﳨسه|ﳩشم|ﳪشه|ﳫكل|ﳬكم|ﳭلم|ﳮنم|ﳯنه|ﳰيم|ﳱيه|ﳲـ\u064e\u0651",
   "ﳳـ\u064f\u0651|ﳴـ\u0650\u0651|ﳵطى|ﳶطي|ﳷعى|ﳸعي|ﳹغى|ﳺغي|ﳻسى|ﳼسي|ﳽشى|ﳾشي|ﳿحى|ﴀحي|ﴁجى|ﴂجي|ﴃخى",
   "ﴄخي|ﴅصى|ﴆصي|ﴇضى|ﴈضي|ﴉشج|ﴊشح|ﴋشخ|ﴌشم|ﴍشر|ﴎسر|ﴏصر|ﴐضر|ﴑطى|ﴒطي|ﴓعى|ﴔعي|ﴕغى|ﴖغي|ﴗسى|ﴘسي|ﴙشى|ﴚشي",
   "ﴛحى|ﴜحي|ﴝجى|ﴞجي|ﴟخى|ﴠخي|ﴡصى|ﴢصي|ﴣضى|ﴤضي|ﴥشج|ﴦشح|ﴧشخ|ﴨشم|ﴩشر|ﴪسر|ﴫصر|ﴬضر|ﴭشج|ﴮشح|ﴯشخ|ﴰشم|ﴱسه",
   "ﴲشه|ﴳطم|ﴴسج|ﴵسح|ﴶسخ|ﴷشج|ﴸشح|ﴹشخ|ﴺطم|ﴻظم|ﴼا\u064b|ﴽا\u064b|ﵐتجم|ﵑتحج|ﵒتحج|ﵓتحم|ﵔتخم|ﵕتمج|ﵖتمح",
   "ﵗتمخ|ﵘجمح|ﵙجمح|ﵚحمي|ﵛحمى|ﵜسحج|ﵝسجح|ﵞسجى|ﵟسمح|ﵠسمح|ﵡسمج|ﵢسمم|ﵣسمم|ﵤصحح|ﵥصحح|ﵦصمم|ﵧشحم|ﵨشحم",
   "ﵩشجي|ﵪشمخ|ﵫشمخ|ﵬشمم|ﵭشمم|ﵮضحى|ﵯضخم|ﵰضخم|ﵱطمح|ﵲطمح|ﵳطمم|ﵴطمي|ﵵعجم|ﵶعمم|ﵷعمم|ﵸعمى|ﵹغمم|ﵺغمي",
   "ﵻغمى|ﵼفخم|ﵽفخم|ﵾقمح|ﵿقمم|ﶀلحم|ﶁلحي|ﶂلحى|ﶃلجج|ﶄلجج|ﶅلخم|ﶆلخم|ﶇلمح|ﶈلمح|ﶉمحج|ﶊمحم|ﶋمحي|ﶌمجح",
   "ﶍمجم|ﶎمخج|ﶏمخم|ﶒمجخ|ﶓهمج|ﶔهمم|ﶕنحم|ﶖنحى|ﶗنجم|ﶘنجم|ﶙنجى|ﶚنمي|ﶛنمى|ﶜيمم|ﶝيمم|ﶞبخي|ﶟتجي|ﶠتجى",
   "ﶡتخي|ﶢتخى|ﶣتمي|ﶤتمى|ﶥجمي|ﶦجحى|ﶧجمى|ﶨسخى|ﶩصحي|ﶪشحي|ﶫضحي|ﶬلجي|ﶭلمي|ﶮيحي|ﶯيجي|ﶰيمي|ﶱممي|ﶲقمي",
   "ﶳنحي|ﶴقمح|ﶵلحم|ﶶعمي|ﶷكمي|ﶸنجح|ﶹمخي|ﶺلجم|ﶻكمم|ﶼلجم|ﶽنجح|ﶾجحي|ﶿحجي|ﷀمجي|ﷁفمي|ﷂبحي|ﷃكمم|ﷄعجم",
   "ﷅصمم|ﷆسخي|ﷇنجي|ﷰصلے|ﷱقلے|ﷲالله|ﷳاكبر|ﷴمحمد|ﷵصلعم|ﷶرسول|ﷷعليه|ﷸوسلم|ﷹصلى|ﷺصلى الله عليه وسلم",
   "ﷻجل جلاله|﷼ریال|︐,|︑、|︓:|︔;|︕!|︖?|︗〖|︘〗|︱—|︲–|︳_|︴_|︵(|︶)|︷\x7b|︸\x7d|︹〔|︺〕|︻【|︼】|︽《|︾》|︿〈",
   "﹀〉|﹁「|﹂」|﹃『|﹄』|﹇[|﹈]|﹉ \u0305|﹊ \u0305|﹋ \u0305|﹌ \u0305|﹍_|﹎_|﹏_|﹐,|﹑、|﹔;|﹕:|﹖?|﹗!|﹘—|﹙(|﹚)",
   "﹛\x7b|﹜\x7d|﹝〔|﹞〕|﹟#|﹠&|﹡*|﹢+|﹣-|﹤<|﹥>|﹦=|﹨\\|﹩$|﹪%|﹫@|ﹰ \u064b|ﹱـ\u064b|ﹲ \u064c|ﹴ \u064d",
   "ﹶ \u064e|ﹷـ\u064e|ﹸ \u064f|ﹹـ\u064f|ﹺ \u0650|ﹻـ\u0650|ﹼ \u0651|ﹽـ\u0651|ﹾ \u0652|ﹿـ\u0652|ﺀء",
   "ﺁآ|ﺂآ|ﺃأ|ﺄأ|ﺅؤ|ﺆؤ|ﺇإ|ﺈإ|ﺉئ|ﺊئ|ﺋئ|ﺌئ|ﺍا|ﺎا|ﺏب|ﺐب|ﺑب|ﺒب|ﺓة|ﺔة|ﺕت|ﺖت|ﺗت|ﺘت|ﺙث|ﺚث|ﺛث|ﺜث|ﺝج|ﺞج|ﺟج",
   "ﺠج|ﺡح|ﺢح|ﺣح|ﺤح|ﺥخ|ﺦخ|ﺧخ|ﺨخ|ﺩد|ﺪد|ﺫذ|ﺬذ|ﺭر|ﺮر|ﺯز|ﺰز|ﺱس|ﺲس|ﺳس|ﺴس|ﺵش|ﺶش|ﺷش|ﺸش|ﺹص|ﺺص|ﺻص|ﺼص|ﺽض|ﺾض",
   "ﺿض|ﻀض|ﻁط|ﻂط|ﻃط|ﻄط|ﻅظ|ﻆظ|ﻇظ|ﻈظ|ﻉع|ﻊع|ﻋع|ﻌع|ﻍغ|ﻎغ|ﻏغ|ﻐغ|ﻑف|ﻒف|ﻓف|ﻔف|ﻕق|ﻖق|ﻗق|ﻘق|ﻙك|ﻚك|ﻛك|ﻜك|ﻝل",
   "ﻞل|ﻟل|ﻠل|ﻡم|ﻢم|ﻣم|ﻤم|ﻥن|ﻦن|ﻧن|ﻨن|ﻩه|ﻪه|ﻫه|ﻬه|ﻭو|ﻮو|ﻯى|ﻰى|ﻱي|ﻲي|ﻳي|ﻴي|ﻵلآ|ﻶلآ|ﻷلأ|ﻸلأ|ﻹلإ|ﻺلإ",
   "ﻻلا|ﻼلا|｟⦅|｠⦆|｡.|｢「|｣」|､、|･・|ｦヲ|ｧァ|ｨィ|ｩゥ|ｪェ|ｫォ|ｬャ|ｭュ|ｮョ|ｯッ|ｰー|ｱア|ｲイ|ｳウ|ｴエ|ｵオ|ｶカ|ｷキ|ｸク|ｹケ|ｺコ",
   "ｻサ|ｼシ|ｽス|ｾセ|ｿソ|ﾀタ|ﾁチ|ﾂツ|ﾃテ|ﾄト|ﾅナ|ﾆニ|ﾇヌ|ﾈネ|ﾉノ|ﾊハ|ﾋヒ|ﾌフ|ﾍヘ|ﾎホ|ﾏマ|ﾐミ|ﾑム|ﾒメ|ﾓモ|ﾔヤ|ﾕユ|ﾖヨ|ﾗラ|ﾘリ|ﾙル",
   "ﾚレ|ﾛロ|ﾜワ|ﾝン|ﾞ\u3099|ﾟ\u309a|ﾡᄀ|ﾢᄁ|ﾣᆪ|ﾤᄂ|ﾥᆬ|ﾦᆭ|ﾧᄃ|ﾨᄄ|ﾩᄅ|ﾪᆰ|ﾫᆱ|ﾬᆲ|ﾭᆳ|ﾮᆴ|ﾯᆵ|ﾰᄚ|ﾱᄆ|ﾲᄇ|ﾳᄈ|ﾴᄡ|ￂᅡ",
   "ￃᅢ|ￄᅣ|ￅᅤ|ￆᅥ|ￇᅦ|ￊᅧ|ￋᅨ|ￌᅩ|ￍᅪ|ￎᅫ|ￏᅬ|ￒᅭ|ￓᅮ|ￔᅯ|ￕᅰ|ￖᅱ|ￗᅲ|ￚᅳ|ￛᅴ|ￜᅵ|￠¢|￡£|￢¬|￣ \u0304|￤¦|￥¥|￦₩|￨│|￩←",
   "￪↑|￫→|￬↓|￭■|￮○|𐖌𐖳|𐖍𐖴|𐖎𐖵|𐖏𐖶|𐖐𐖷|𐖑𐖸|𐖒𐖹|𐖔𐖻|𐖕𐖼|𐞁ː|𐞂ˑ|𐞃æ|𐞄ʙ|𐞅ɓ|𐞇ʣ|𐞈ꭦ|𐞉ʥ|𐞊ʤ|𐞋ɖ|𐞌ɗ|𐞍ᶑ|𐞎ɘ|𐞏ɞ|𐞐ʩ|𐞑ɤ|𐞒ɢ",
   "𐞓ɠ|𐞔ʛ|𐞕ħ|𐞖ʜ|𐞗ɧ|𐞘ʄ|𐞙ʪ|𐞚ʫ|𐞛ɬ|𐞜𝼄|𐞝ꞎ|𐞞ɮ|𐞟𝼅|𐞠ʎ|𐞡𝼆|𐞢ø|𐞣ɶ|𐞤ɷ|𐞥q|𐞦ɺ|𐞧𝼈|𐞨ɽ|𐞩ɾ|𐞪ʀ|𐞫ʨ|𐞬ʦ|𐞭ꭧ|𐞮ʧ|𐞯ʈ|𐞰ⱱ|𐞲ʏ",
   "𐞳ʡ|𐞴ʢ|𐞵ʘ|𐞶ǀ|𐞷ǁ|𐞸ǂ|𐞹𝼊|𐞺𝼞|𝑎a|𝑏b|𝑐c|𝑑d|𝑒e|𝑓f|𝑔g|𝒜a|𝒞c|𝒟d|𝒢g|𝒥j|𝒦k|𝒩n|𝒪o|𝒫p|𝒬q|𝒶a|𝒷b|𝒸c|𝒹d|𝒻f|𝒽h",
   "𝒾i|𝒿j|𝓀k|𝓁l|𝓂m|𝓃n|𝔄a|𝔅b|𝔇d|𝔈e|𝔉f|𝔊g|𝔖s|𝔗t|𝔘u|𝔙v|𝔚w|𝔛x|𝔜y|𝔸a|𝔹b|𝔻d|𝔼e|𝔽f|𝔾g|𝕀i|𝕁j|𝕂k|𝕃l|𝕄m|𝕆o",
   "𝕊s|𝕋t|𝕌u|𝕍v|𝕎w|𝕏x|𝕐y|𝚤ı|𝚥ȷ|𝚹θ|𝚺σ|𝚻τ|𝚼υ|𝚽φ|𝚾χ|𝚿ψ|𝛀ω|𝛁∇|𝛓σ|𝛔σ|𝛕τ|𝛖υ|𝛗φ|𝛘χ|𝛙ψ|𝛚ω|𝛛∂|𝛜ε|𝛝θ|𝛞κ|𝛟φ",
   "𝛠ρ|𝛡π|𝛳θ|𝛴σ|𝛵τ|𝛶υ|𝛷φ|𝛸χ|𝛹ψ|𝛺ω|𝛻∇|𝜍σ|𝜎σ|𝜏τ|𝜐υ|𝜑φ|𝜒χ|𝜓ψ|𝜔ω|𝜕∂|𝜖ε|𝜗θ|𝜘κ|𝜙φ|𝜚ρ|𝜛π|𝜭θ|𝜮σ|𝜯τ|𝜰υ|𝜱φ",
   "𝜲χ|𝜳ψ|𝜴ω|𝜵∇|𝝇σ|𝝈σ|𝝉τ|𝝊υ|𝝋φ|𝝌χ|𝝍ψ|𝝎ω|𝝏∂|𝝐ε|𝝑θ|𝝒κ|𝝓φ|𝝔ρ|𝝕π|𝝧θ|𝝨σ|𝝩τ|𝝪υ|𝝫φ|𝝬χ|𝝭ψ|𝝮ω|𝝯∇|𝞁σ|𝞂σ|𝞃τ",
   "𝞄υ|𝞅φ|𝞆χ|𝞇ψ|𝞈ω|𝞉∂|𝞊ε|𝞋θ|𝞌κ|𝞍φ|𝞎ρ|𝞏π|𝞡θ|𝞢σ|𝞣τ|𝞤υ|𝞥φ|𝞦χ|𝞧ψ|𝞨ω|𝞩∇|𝞻σ|𝞼σ|𝞽τ|𝞾υ|𝞿φ|𝟀χ|𝟁ψ|𝟂ω|𝟃∂|𝟄ε",
   "𝟅θ|𝟆κ|𝟇φ|𝟈ρ|𝟉π|𝟊ϝ|𝟋ϝ|𞀹к|𞀺л|𞀻м|𞁇ы|𞁈э|𞁉ю|𞁊ꚉ|𞁋ә|𞁌і|𞁍ј|𞁎ө|𞁏ү|𞁐ӏ|𞁚к|𞁛л|𞁜о|𞁝п|𞁞с|𞁟у|𞁠ф|𞁡х|𞁢ц|𞁣ч|𞁤ш",
   "𞁥ъ|𞁦ы|𞁧ґ|𞁨і|𞁩ѕ|𞁪џ|𞁫ҫ|𞁬ꙑ|𞁭ұ|𞸀ا|𞸁ب|𞸂ج|𞸃د|𞸅و|𞸆ز|𞸇ح|𞸈ط|𞸉ي|𞸊ك|𞸋ل|𞸌م|𞸍ن|𞸎س|𞸏ع|𞸐ف|𞸑ص|𞸒ق|𞸓ر|𞸔ش|𞸕ت|𞸖ث",
   "𞸗خ|𞸘ذ|𞸙ض|𞸚ظ|𞸛غ|𞸜ٮ|𞸝ں|𞸞ڡ|𞸟ٯ|𞸡ب|𞸢ج|𞸤ه|𞸧ح|𞸩ي|𞸪ك|𞸫ل|𞸬م|𞸭ن|𞸮س|𞸯ع|𞸰ف|𞸱ص|𞸲ق|𞸴ش|𞸵ت|𞸶ث|𞸷خ|𞸹ض|𞸻غ|𞹂ج|𞹇ح",
   "𞹉ي|𞹋ل|𞹍ن|𞹎س|𞹏ع|𞹑ص|𞹒ق|𞹔ش|𞹗خ|𞹙ض|𞹛غ|𞹝ں|𞹟ٯ|𞹡ب|𞹢ج|𞹤ه|𞹧ح|𞹨ط|𞹩ي|𞹪ك|𞹬م|𞹭ن|𞹮س|𞹯ع|𞹰ف|𞹱ص|𞹲ق|𞹴ش|𞹵ت|𞹶ث|𞹷خ",
   "𞹹ض|𞹺ظ|𞹻غ|𞹼ٮ|𞹾ڡ|𞺀ا|𞺁ب|𞺂ج|𞺃د|𞺄ه|𞺅و|𞺆ز|𞺇ح|𞺈ط|𞺉ي|𞺋ل|𞺌م|𞺍ن|𞺎س|𞺏ع|𞺐ف|𞺑ص|𞺒ق|𞺓ر|𞺔ش|𞺕ت|𞺖ث|𞺗خ|𞺘ذ|𞺙ض|𞺚ظ",
   "𞺛غ|𞺡ب|𞺢ج|𞺣د|𞺥و|𞺦ز|𞺧ح|𞺨ط|𞺩ي|𞺫ل|𞺬م|𞺭ن|𞺮س|𞺯ع|𞺰ف|𞺱ص|𞺲ق|𞺳ر|𞺴ش|𞺵ت|𞺶ث|𞺷خ|𞺸ذ|𞺹ض|𞺺ظ|𞺻غ|🄁0,|🄂1,|🄃2,",
   "🄄3,|🄅4,|🄆5,|🄇6,|🄈7,|🄉8,|🄊9,|🄐(a)|🄑(b)|🄒(c)|🄓(d)|🄔(e)|🄕(f)|🄖(g)|🄗(h)|🄘(i)|🄙(j)|🄚(k)|🄛(l)|🄜(m)",
   "🄝(n)|🄞(o)|🄟(p)|🄠(q)|🄡(r)|🄢(s)|🄣(t)|🄤(u)|🄥(v)|🄦(w)|🄧(x)|🄨(y)|🄩(z)|🄪〔s〕|🄫c|🄬r|🄭cd|🄮wz|🅊hv|🅋mv",
   "🅌sd|🅍ss|🅎ppv|🅏wc|🅪mc|🅫md|🅬mr|🆐dj|🈀ほか|🈁ココ|🈂サ|🈐手|🈑字|🈒双|🈓デ|🈔二|🈕多|🈖解|🈗天|🈘交|🈙映|🈚無|🈛料|🈜前|🈝後|🈞再|🈟新",
   "🈠初|🈡終|🈢生|🈣販|🈤声|🈥吹|🈦演|🈧投|🈨捕|🈩一|🈪三|🈫遊|🈬左|🈭中|🈮右|🈯指|🈰走|🈱打|🈲禁|🈳空|🈴合|🈵満|🈶有|🈷月|🈸申|🈹割|🈺営|🈻配|🉀〔本〕",
   "🉁〔三〕|🉂〔二〕|🉃〔安〕|🉄〔点〕|🉅〔打〕|🉆〔盗〕|🉇〔勝〕|🉈〔敗〕|🉐得|🉑可"]

def wordOf? : List Char → Option (Char × List Char)
  | c :: text => some (c, text)
  | [] => none

def words : List (Char × List Char) :=
  rows.flatMap fun row => (Text.split '|' row.toList).filterMap wordOf?

end SchemaLedger.Url.Spelling
